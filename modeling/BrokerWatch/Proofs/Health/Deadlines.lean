import BrokerWatch.Proofs.Health.Patience
import BrokerWatch.Proofs.Health.Sessions
import BrokerWatch.Proofs.Results
import Mathlib.Algebra.GroupWithZero.Nat
import Mathlib.Data.List.Forall2

/-!
# How long an evaluation takes

A call takes the delay of its reply or the time that it is given, whichever is shorter, and the next
one is given the same time however long this one took. So the world that an evaluation leaves is what
the events make of it that were seen, and how long the evaluation took is told by the calls among
them. A call without a reply when its time is up ends the evaluation with a failure text of its own,
and a reply that is there by then is taken for what it is.
-/

namespace BrokerWatch.Health

open Admin Cluster

/-! ### What a call is reported as -/

/-- A call, told without the value that it is made for. -/
structure Call where
  event : Event
  /-- What the call is made for, in words. -/
  operation : String
  /-- How long it takes until there is a reply; none if there never is. -/
  delay : Option Duration
  /-- What the reply says instead of a value. -/
  failure : Option Failure

namespace Call

def of {α : Type} (event : Event) (operation : String) (reply : Reply α) : Call where
  event := event
  operation := operation
  delay := match reply with
    | .after delay _ => some delay
    | .never => none
  failure := match reply with
    | .after _ result => fault? result
    | .never => none

/-- The reply is there before the time is over. -/
def InTime (timeout : Duration) (c : Call) : Prop :=
  ∃ delay ∈ c.delay, delay ≤ timeout

def span (timeout : Duration) (c : Call) : Duration :=
  match c.delay with
  | some delay => delay.min timeout
  | none => timeout

/-- What an evaluation can say of a call: nothing if it goes on behind it, else why it does not. -/
inductive ReportedAs (timeout : Duration) (c : Call) : Option String → Prop
  | passed (hreply : c.InTime timeout) (hvalue : c.failure = none) : ReportedAs timeout c none
  | found (hreply : c.InTime timeout) (hvalue : c.failure = none) (problem : Problem) :
    ReportedAs timeout c (some problem.message)
  | failed {failure : Failure} (hreply : c.InTime timeout) (hfailure : c.failure = some failure) :
    ReportedAs timeout c (some s!"{c.operation}: {failure.message}")
  | late (hlate : ¬c.InTime timeout) :
    ReportedAs timeout c (some s!"{c.operation}: deadline exceeded after {timeout.text}")

theorem span_of {α : Type} (timeout : Duration) (event : Event) (operation : String)
    (reply : Reply α) : (of event operation reply).span timeout = spent timeout reply := by
  cases reply <;> rfl

theorem span_le (timeout : Duration) (c : Call) :
    (c.span timeout).nanoseconds ≤ timeout.nanoseconds := by
  rw [span]
  cases c.delay with
  | none => exact Nat.le_refl _
  | some delay =>
      show (if delay ≤ timeout then delay else timeout).nanoseconds ≤ _
      split
      · assumption
      · exact Nat.le_refl _

theorem sum_span_le (timeout : Duration) (calls : List Call) :
    (calls.map fun c => (c.span timeout).nanoseconds).sum ≤
      calls.length * timeout.nanoseconds := by
  induction calls with
  | nil => exact Nat.zero_le _
  | cons c calls ih =>
      have hfirst := c.span_le timeout
      rw [List.map_cons, List.sum_cons, List.length_cons, Nat.succ_mul]
      omega

end Call

/-- How an evaluation goes that has calls to make: those that it makes, and its failure text. -/
inductive Goes (timeout : Duration) : List Call → List Call → Option String → Prop
  | done : Goes timeout [] [] none
  | next {c : Call} {calls made : List Call} {error : Option String}
    (hpassed : c.ReportedAs timeout none) (hrest : Goes timeout calls made error) :
    Goes timeout (c :: calls) (c :: made) error
  | stopped {c : Call} {calls : List Call} {text : String}
    (hstopped : c.ReportedAs timeout (some text)) : Goes timeout (c :: calls) [c] (some text)

theorem Goes.made_prefix {timeout : Duration} {calls made : List Call} {error : Option String}
    (h : Goes timeout calls made error) : made <+: calls := by
  induction h with
  | done => exact List.prefix_rfl
  | next _ _ ih => exact List.cons_prefix_cons.2 ⟨rfl, ih⟩
  | stopped _ => exact List.cons_prefix_cons.2 ⟨rfl, List.nil_prefix⟩

/-! ### The calls of the stages -/

/-- A stage is the one of a call: the call is made in it, and says what keeps it from being passed. -/
def Stage.IsOf (timeout : Duration) (c : Call) (s : Stage) : Prop :=
  s.call = c.event ∧ c.ReportedAs timeout s.hindrance

theorem obstacle_deadline (operation : String) (timeout : Duration) :
    obstacle operation s!"deadline exceeded after {timeout.text}" =
      s!"{operation}: deadline exceeded after {timeout.text}" := by
  show operation ++ ": " ++ ("deadline exceeded after " ++ timeout.text) = _
  rw [← String.append_assoc]
  exact congrArg (· ++ timeout.text) String.append_assoc

theorem Stage.isOf_of {α : Type} (timeout : Duration) (event : Event) (operation : String)
    (reply : Reply α) {passes : α → Bool} {problem : String}
    (hproblem : (∀ a, passes a = true) ∨ ∃ p : Problem, p.message = problem) :
    Stage.IsOf timeout (.of event operation reply)
      (.of event operation (reply.within timeout) passes problem) := by
  refine ⟨rfl, ?_⟩
  cases reply with
  | never =>
      show Call.ReportedAs _ _ (some (obstacle _ _))
      rw [obstacle_deadline]
      refine .late fun hreply => ?_
      obtain ⟨_, ⟨⟩, -⟩ := hreply
  | after delay result =>
      by_cases hdelay : delay ≤ timeout
      · have hreply : (Call.of event operation (.after delay result)).InTime timeout :=
          ⟨delay, rfl, hdelay⟩
        rw [Reply.within, if_pos hdelay]
        cases result with
        | error failure => exact .failed hreply rfl
        | ok a =>
            show Call.ReportedAs _ _ (if passes a then none else some problem)
            cases hpasses : passes a with
            | true => exact .passed hreply rfl
            | false =>
                obtain hall | ⟨p, rfl⟩ := hproblem
                · rw [hall] at hpasses
                  cases hpasses
                · exact .found hreply rfl p
      · rw [Reply.within, if_neg hdelay]
        show Call.ReportedAs _ _ (some (obstacle _ _))
        rw [obstacle_deadline]
        refine .late fun hreply => ?_
        obtain ⟨_, ⟨⟩, hle⟩ := hreply
        exact hdelay hle

theorem Stage.runThrough_singleton (s : Stage) : runThrough [s] = [s] := by
  cases h : s.hindrance with
  | none => rw [runThrough_of_passed h]; rfl
  | some text => rw [runThrough_of_hindrance h]

/-- The stages that are run through are those of the calls that are made. -/
theorem exists_goes {timeout : Duration} {calls : List Call} {stages : List Stage}
    (h : List.Forall₂ (Stage.IsOf timeout) calls stages) :
    ∃ made, Goes timeout calls made (stages.findSome? (·.hindrance)) ∧
      made.map (·.event) = (Stage.runThrough stages).map (·.call) := by
  induction h with
  | nil => exact ⟨[], .done, rfl⟩
  | @cons c s calls stages hfirst _ ih =>
      obtain ⟨hcall, hreported⟩ := hfirst
      rw [findSome?_cons_or]
      cases hs : s.hindrance with
      | none =>
          obtain ⟨made, hgoes, hevents⟩ := ih
          rw [hs] at hreported
          refine ⟨c :: made, .next hreported hgoes, ?_⟩
          rw [Stage.runThrough_of_passed hs, List.map_cons, List.map_cons, hevents, hcall]
      | some text =>
          rw [hs] at hreported
          refine ⟨[c], .stopped hreported, ?_⟩
          rw [Stage.runThrough_of_hindrance hs, List.map_singleton, List.map_singleton, hcall]

/-! ### A world is what the events make of it -/

namespace World

variable {timeout : Duration} {w : World}

/-- The world behind an event. A call takes its reply and its time. -/
def after (timeout : Duration) (w : World) : Event → World
  | .connect => w.afterConnect timeout
  | .fetchMetadata => w.afterSnapshot timeout
  | .describeLogDirs id => w.afterLogDirs timeout id
  | event => w.record [event]

def afterAll (timeout : Duration) (w : World) (events : List Event) : World :=
  events.foldl (after timeout) w

theorem afterAll_append (first second : List Event) :
    w.afterAll timeout (first ++ second) = (w.afterAll timeout first).afterAll timeout second :=
  List.foldl_append

theorem after_withLog (lines : List Logging.Record) (event : Event) :
    (w.withLog lines).after timeout event = (w.after timeout event).withLog lines := by
  cases event <;> rfl

theorem afterAll_withLog (lines : List Logging.Record) (events : List Event) :
    (w.withLog lines).afterAll timeout events = (w.afterAll timeout events).withLog lines := by
  induction events generalizing w with
  | nil => rfl
  | cons event events ih =>
      show ((w.withLog lines).after timeout event).afterAll timeout events = _
      rw [after_withLog, ih]
      rfl

theorem trace_after (event : Event) :
    (w.after timeout event).trace = w.trace ++ [⟨w.now, event⟩] := by
  cases event <;> rfl

theorem patience_after (event : Event) : (w.after timeout event).patience = w.patience := by
  cases event <;> rfl

theorem patience_afterAll (events : List Event) :
    (w.afterAll timeout events).patience = w.patience := by
  induction events generalizing w with
  | nil => rfl
  | cons event events ih => exact ih.trans (patience_after event)

theorem events_afterAll (events : List Event) :
    (w.afterAll timeout events).events = w.events ++ events := by
  induction events generalizing w with
  | nil => exact (List.append_nil _).symm
  | cons event events ih =>
      show ((w.after timeout event).afterAll timeout events).events = _
      rw [ih, World.events, trace_after, List.map_append, List.append_assoc]
      rfl

end World

/-- A caller who waits gets a value from a course, and the world is then what events make of it. -/
def Settles (timeout : Duration) {α : Type} (course : Eval α) : Prop :=
  ∀ w : World, w.patience = none → ∃ (a : α) (events : List Event) (lines : List Logging.Record),
    course w = (some a, (w.afterAll timeout events).withLog lines)

namespace Settles

variable {timeout : Duration} {α β : Type}

theorem pure (a : α) : Settles timeout (Pure.pure a : Eval α) :=
  fun w _ => ⟨a, [], w.log, rfl⟩

theorem note (line : Logging.Record) : Settles timeout (Health.note line) :=
  fun w _ => ⟨(), [], w.log ++ [line], rfl⟩

theorem bind {course : Eval α} {next : α → Eval β} (h : Settles timeout course)
    (hnext : ∀ a, Settles timeout (next a)) : Settles timeout (course >>= next) := by
  intro w hw
  obtain ⟨a, first, lines, hrun⟩ := h w hw
  have hpatient : ((w.afterAll timeout first).withLog lines).patience = none := by
    rw [World.patience_withLog, World.patience_afterAll, hw]
  obtain ⟨b, second, lines', hrun'⟩ := hnext a _ hpatient
  refine ⟨b, first ++ second, lines', ?_⟩
  rw [bind_run hrun, hrun', World.afterAll_withLog, World.afterAll_append]
  rfl

theorem inSession {body : Eval α} (h : Settles timeout body) :
    Settles timeout (inSession body) := by
  intro w hw
  obtain ⟨a, events, lines, hrun⟩ := h w hw
  refine ⟨a, events ++ [.clientDropped, .released],
    lines ++ [sessionNote "admin session closed"], ?_⟩
  rw [Evaluator.inSession_run hrun, World.afterAll_append]
  -- Recording both events at once is recording one behind the other.
  simp [World.afterAll, World.after, World.record, World.withLog, World.noted]

theorem enclosed (e : Evaluator) : Enclosed e (Settles e.timeout) where
  pure := pure
  bind := bind
  note := note
  fetchMetadata w hw := ⟨_, [.fetchMetadata], w.log, fetchMetadata_run e.timeout hw⟩
  describeLogDirs w hw :=
    ⟨_, [.describeLogDirs e.brokerId], w.log, describeLogDirs_run e.timeout e.brokerId hw⟩
  connect w hw := by
    obtain ⟨lines, hrun⟩ := connect_run e.timeout (World.gaveUp_of_patient hw _)
    exact ⟨_, [.connect], lines, hrun⟩
  inSession := inSession

end Settles

/-! ### The clock -/

/-- Calls that are made one behind the other from a moment on, and when. -/
def stamped (timeout : Duration) : Duration → List Call → List Occurrence
  | _, [] => []
  | start, c :: calls => ⟨start, c.event⟩ :: stamped timeout (start + c.span timeout) calls

namespace World

variable {timeout : Duration} {w : World}

def calls (w : World) (id : Int32) : List Call :=
  [.of .connect "failed to create admin client" w.connectReply,
    .of .fetchMetadata "failed to fetch metadata" (w.snapshotReply 0),
    .of .fetchMetadata "failed to fetch metadata" (w.snapshotReply 1),
    .of .fetchMetadata "failed to fetch metadata" (w.snapshotReply 2),
    .of (.describeLogDirs id) "failed to describe log dirs" w.logDirsReply]

/-- Calls take the time that they are given in the world where each is made. -/
def Answers (timeout : Duration) : World → List Call → Prop
  | _, [] => True
  | w, c :: calls => (w.after timeout c.event).now = w.now + c.span timeout ∧
      (w.after timeout c.event).Answers timeout calls

theorem answers_calls (id : Int32) : w.Answers timeout (w.calls id) := by
  have hspan {α : Type} {event : Event} {operation : String} {reply reply' : Reply α}
      {start : Duration} (h : reply' = reply) : start + spent timeout reply' =
        start + (Call.of event operation reply).span timeout := by
    rw [Call.span_of, h]
  refine ⟨hspan rfl, hspan rfl, hspan ?_, hspan ?_, hspan rfl, trivial⟩
  · exact snapshotReply_afterSnapshot (w.afterConnect timeout) timeout 0
  · refine (snapshotReply_afterSnapshot _ timeout 0).trans ?_
    exact snapshotReply_afterSnapshot (w.afterConnect timeout) timeout 1

theorem Answers.of_front {calls made : List Call} (h : w.Answers timeout calls)
    (hmade : made <+: calls) : w.Answers timeout made := by
  induction made generalizing w calls with
  | nil => trivial
  | cons c made ih =>
      obtain ⟨rest, rfl⟩ := hmade
      exact ⟨h.1, ih h.2 (List.prefix_append made rest)⟩

theorem Answers.trace_eq {made : List Call} (h : w.Answers timeout made) :
    (w.afterAll timeout (made.map (·.event))).trace = w.trace ++ stamped timeout w.now made := by
  induction made generalizing w with
  | nil => exact (List.append_nil _).symm
  | cons c made ih =>
      show ((w.after timeout c.event).afterAll timeout (made.map (·.event))).trace = _
      rw [ih h.2, trace_after, h.1, List.append_assoc]
      rfl

theorem Answers.now_eq {made : List Call} (h : w.Answers timeout made) :
    (w.afterAll timeout (made.map (·.event))).now.nanoseconds =
      w.now.nanoseconds + (made.map fun c => (c.span timeout).nanoseconds).sum := by
  induction made generalizing w with
  | nil => rfl
  | cons c made ih =>
      have hnow : (w.after timeout c.event).now.nanoseconds =
          w.now.nanoseconds + (c.span timeout).nanoseconds := congrArg _ h.1
      show ((w.after timeout c.event).afterAll timeout (made.map (·.event))).now.nanoseconds = _
      rw [ih h.2, hnow, List.map_cons, List.sum_cons, Nat.add_assoc]

end World

/-- An evaluation that has calls to make goes through some of them and is over then: each is made
when those before it are over, and the session is ended behind the last. -/
structure Timely (timeout : Duration) (calls made : List Call) (error : Option String)
    (w w' : World) : Prop where
  goes : Goes timeout calls made error
  trace_eq : w'.trace =
    stamped timeout w.now made ++ (w.gathered timeout).closing.map (⟨w'.now, ·⟩)
  now_eq : w'.now.nanoseconds =
    w.now.nanoseconds + (made.map fun c => (c.span timeout).nanoseconds).sum

theorem Timely.now_le {timeout : Duration} {calls made : List Call} {error : Option String}
    {w w' : World} (h : Timely timeout calls made error w w') :
    w'.now.nanoseconds ≤ w.now.nanoseconds + calls.length * timeout.nanoseconds := by
  have hsum := Call.sum_span_le timeout made
  have hlength : made.length * timeout.nanoseconds ≤ calls.length * timeout.nanoseconds :=
    Nat.mul_le_mul_right _ h.goes.made_prefix.length_le
  rw [h.now_eq]
  omega

namespace Evaluator

variable (e : Evaluator) {w : World}

/-- A course that makes calls from the front of those of an evaluation takes their time. -/
theorem timely_of_events {α : Type} {course : Eval α} (hsettles : Settles e.timeout course)
    (hw : w.patience = none) (htrace : w.trace = []) {report : α} {w' : World}
    (hrun : course w = (some report, w')) {calls made : List Call} {error : Option String}
    (hcalls : calls <+: w.calls e.brokerId) (hgoes : Goes e.timeout calls made error)
    (hevents : w'.events = made.map (·.event) ++ (w.gathered e.timeout).closing) :
    Timely e.timeout calls made error w w' := by
  obtain ⟨a, events, lines, hsame⟩ := hsettles w hw
  rw [hrun] at hsame
  obtain ⟨-, rfl⟩ := Prod.mk.inj hsame
  have hempty : w.events = [] := by rw [World.events, htrace, List.map_nil]
  rw [World.events_withLog, World.events_afterAll, hempty, List.nil_append] at hevents
  have hanswers : w.Answers e.timeout made :=
    (w.answers_calls e.brokerId).of_front (hgoes.made_prefix.trans hcalls)
  have hclosing : ∀ w₁ : World,
      (w₁.afterAll e.timeout (w.gathered e.timeout).closing).now = w₁.now ∧
      (w₁.afterAll e.timeout (w.gathered e.timeout).closing).trace =
        w₁.trace ++ (w.gathered e.timeout).closing.map (⟨w₁.now, ·⟩) := by
    intro w₁
    rw [Gathered.closing]
    split
    · exact ⟨rfl, List.append_assoc ..⟩
    · exact ⟨rfl, (List.append_nil _).symm⟩
  obtain ⟨hnow, hall⟩ := hclosing (w.afterAll e.timeout (made.map (·.event)))
  rw [← World.afterAll_append, ← hevents] at hnow hall
  refine ⟨hgoes, ?_, ?_⟩
  · refine hall.trans ?_
    rw [hanswers.trace_eq, htrace, List.nil_append, ← hnow]
    rfl
  · exact (congrArg _ hnow).trans hanswers.now_eq

end Evaluator

/-! ### The two evaluations -/

namespace Gathered

def livenessStages (g : Gathered) (id : Int32) : List Stage :=
  [.of .connect "failed to create admin client" g.session (fun _ => true) "",
    .of .fetchMetadata "failed to fetch metadata" g.registration (·.hasBroker id)
      "broker not found in cluster metadata"]

theorem livenessHindrance_eq_findSome? (g : Gathered) (id : Int32) :
    g.livenessHindrance id = (g.livenessStages id).findSome? (·.hindrance) := by
  simp only [livenessStages, findSome?_cons_or, List.findSome?_nil, Option.or_none, Stage.of,
    livenessHindrance]
  cases g.session with
  | error text => rfl
  | ok _ => cases g.registration <;> rfl

end Gathered

namespace Evaluator

variable (e : Evaluator) {w : World} (hw : w.patience = none)
include hw

theorem events_livenessInSession :
    (e.livenessInSession w).2.events = w.events ++ [.fetchMetadata] := by
  have hquestion : (e.registered w).2.events = (fetchMetadata e.timeout w).2.events :=
    events_bind_of_silent _ (fun _ _ => rfl) w
  rw [livenessInSession, events_bind_of_silent, hquestion, fetchMetadata_run e.timeout hw,
    World.events_afterSnapshot]
  intro got w'
  cases livenessSetback? got <;> rfl

/-- The question about the broker is asked where there is a session, whatever its reply is. -/
theorem events_liveness (hevents : w.events = []) :
    (e.liveness w).2.events =
      (Stage.runThrough ((w.gathered e.timeout).livenessStages e.brokerId)).map (·.call) ++
        (w.gathered e.timeout).closing := by
  obtain ⟨lines, hconnect⟩ := connect_run e.timeout (World.gaveUp_of_patient hw _)
  rw [outcome_eq] at hconnect
  rw [Gathered.livenessStages, Gathered.closing]
  cases hg : w.connectReply.within e.timeout with
  | error text =>
      have hsession : (w.gathered e.timeout).session = .error text := hg
      rw [hg] at hconnect
      rw [liveness, bind_run hconnect, hsession, Stage.runThrough_of_hindrance rfl]
      exact (w.events_afterConnect e.timeout).trans (by rw [hevents]; rfl)
  | ok _ =>
      have hsession : (w.gathered e.timeout).session = .ok () := hg
      have hbody := events_livenessInSession e (w := (w.afterConnect e.timeout).withLog lines) hw
      have hsilent : (e.liveness w).2.events = (inSession e.livenessInSession
          ((w.afterConnect e.timeout).withLog lines)).2.events := by
        rw [hg] at hconnect
        rw [liveness, bind_run hconnect]
        exact events_bind_of_silent _ (fun _ _ => rfl) _
      rw [hsilent, events_inSession, hbody, World.events_withLog, World.events_afterConnect, hevents,
        hsession, Stage.runThrough_of_passed rfl, Stage.runThrough_singleton]
      rfl

end Evaluator

/-! ### A call that is given a time -/

theorem bounded_in_time {α : Type} {timeout delay : Duration} (hdelay : delay ≤ timeout)
    (operation : String) (result : Except Failure α) {w : World} (hw : w.patience = none) :
    bounded timeout operation (.after delay result) w =
      (some (result.mapError (·.context operation)), { w with now := w.now + delay }) := by
  have hspent : spent timeout (.after delay result) = delay := if_pos hdelay
  rw [bounded_run _ _ _ (World.gaveUp_of_patient hw _), hspent, outcome, if_pos hdelay]

theorem bounded_late {α : Type} {timeout : Duration} {reply : Reply α}
    (hlate : ∀ delay result, reply = .after delay result → timeout < delay) (operation : String)
    {w : World} (hw : w.patience = none) :
    bounded timeout operation reply w =
      (some (.error (.connection s!"{operation}: deadline exceeded after {timeout.text}")),
        { w with now := w.now + timeout }) := by
  have hfailure : (deadlineExceeded timeout).context operation =
      .connection s!"{operation}: deadline exceeded after {timeout.text}" :=
    congrArg Failure.connection (obstacle_deadline operation timeout)
  rw [bounded_run _ _ _ (World.gaveUp_of_patient hw _), ← hfailure]
  cases reply with
  | never => rfl
  | after delay result =>
      have hdelay : ¬delay ≤ timeout := Nat.not_le.2 (hlate delay result rfl)
      have hspent : spent timeout (.after delay result) = timeout := if_neg hdelay
      rw [hspent, outcome, if_neg hdelay]

namespace Evaluator

/-- An evaluation that is left to run comes to a report, whatever the cluster replies and when. It
makes its calls one behind the other; each takes the delay of its reply or the time that calls are
given, whichever is shorter, and the evaluation takes that of all the calls that it makes: at most
twice the time of a call for liveness, and five times for readiness. Its report goes by each reply
that is there in time, and where one is not it says so and nothing else; the call itself is a
failure of the connection then. -/
theorem report_in_time (e : Evaluator) (w : World) :
    let start := w.beginning none
    (∃ report w' made, e.liveness start = (some report, w') ∧
      Timely e.timeout ((w.calls e.brokerId).take 2) made report.error start w' ∧
      w'.now.nanoseconds ≤ w.now.nanoseconds + 2 * e.timeout.nanoseconds) ∧
    (∃ report w' made, e.readiness start = (some report, w') ∧
      Timely e.timeout (w.calls e.brokerId) made report.error start w' ∧
      w'.now.nanoseconds ≤ w.now.nanoseconds + 5 * e.timeout.nanoseconds) ∧
    (∀ (α : Type) (operation : String) (delay : Duration) (result : Except Failure α),
      delay ≤ e.timeout → bounded e.timeout operation (.after delay result) start =
        (some (result.mapError (·.context operation)), { start with now := w.now + delay })) ∧
    (∀ (α : Type) (operation : String) (reply : Reply α),
      (∀ delay result, reply = .after delay result → e.timeout < delay) →
        bounded e.timeout operation reply start =
          (some (.error (.connection s!"{operation}: deadline exceeded after {e.timeout.text}")),
            { start with now := w.now + e.timeout })) := by
  intro start
  have hsettles := Settles.enclosed e
  refine ⟨?_, ?_, fun α operation delay result hdelay => ?_, fun α operation reply hlate => ?_⟩
  · obtain ⟨w', hrun⟩ := liveness_run e (w := start) rfl
    have hevents := events_liveness e (w := start) rfl rfl
    have hstages : List.Forall₂ (Stage.IsOf e.timeout) ((w.calls e.brokerId).take 2)
        ((w.gathered e.timeout).livenessStages e.brokerId) :=
      .cons (Stage.isOf_of _ _ _ _ (.inl fun _ => rfl)) <|
        .cons (Stage.isOf_of _ _ _ _ (.inr ⟨.notFound, rfl⟩)) .nil
    obtain ⟨made, hgoes, hmade⟩ := exists_goes hstages
    rw [← Gathered.livenessHindrance_eq_findSome?] at hgoes
    rw [hrun] at hevents
    have htimely := timely_of_events e hsettles.liveness rfl rfl hrun
      (List.take_prefix 2 (w.calls e.brokerId)) hgoes (hevents.trans (by rw [hmade]; rfl))
    exact ⟨_, w', made, hrun, htimely, htimely.now_le⟩
  · obtain ⟨w', hrun, hevents⟩ := readiness_run e (w := start) rfl rfl
    have hstages : List.Forall₂ (Stage.IsOf e.timeout) (w.calls e.brokerId)
        ((w.gathered e.timeout).stages e.brokerId) :=
      .cons (Stage.isOf_of _ _ _ _ (.inl fun _ => rfl)) <|
        .cons (Stage.isOf_of _ _ _ _ (.inr ⟨.notRegistered, rfl⟩)) <|
        .cons (Stage.isOf_of _ _ _ _ (.inr ⟨.noController, rfl⟩)) <|
        .cons (Stage.isOf_of _ _ _ _ (.inr ⟨.underReplicated, rfl⟩)) <|
        .cons (Stage.isOf_of _ _ _ _ (.inr ⟨.logDirs, rfl⟩)) .nil
    obtain ⟨made, hgoes, hmade⟩ := exists_goes hstages
    rw [← Gathered.hindrance_eq_findSome?] at hgoes
    have htimely := timely_of_events e hsettles.readiness rfl rfl hrun
      (List.prefix_refl (w.calls e.brokerId)) hgoes (hevents.trans (by rw [hmade]; rfl))
    exact ⟨_, w', made, hrun, htimely, htimely.now_le⟩
  · exact bounded_in_time hdelay operation result rfl
  · exact bounded_late hlate operation rfl

/-- A reply that comes in the last moment is taken, and a cluster that never says anything is given up
in time. -/
theorem report_in_time_at_last :
    let e : Evaluator := ⟨1, ⟨3⟩⟩
    let start := ({ cluster := { connect := [.never] } } : World).beginning none
    (∃ report w', e.readiness start = (some report, w') ∧ w'.now.nanoseconds ≤ 15) ∧
      bounded e.timeout "failed to look" (.after ⟨3⟩ (.ok true)) start =
        (some (.ok true), { start with now := ⟨3⟩ }) ∧
      bounded e.timeout "failed to look" (.never : Reply Bool) start =
        (some (.error (.connection "failed to look: deadline exceeded after 3ns")),
          { start with now := ⟨3⟩ }) := by
  intro e start
  obtain ⟨-, ⟨report, w', made, hrun, -, hnow⟩, hanswered, hlate⟩ :=
    report_in_time e { cluster := { connect := [.never] } }
  have htext : s!"failed to look: deadline exceeded after {e.timeout.text}" =
      "failed to look: deadline exceeded after 3ns" := by decide +kernel
  refine ⟨⟨report, w', hrun, hnow⟩, hanswered Bool _ ⟨3⟩ (.ok true) (Nat.le_refl 3), ?_⟩
  rw [← htext]
  exact hlate Bool _ .never fun delay result h => nomatch h

end Evaluator

end BrokerWatch.Health
