import BrokerWatch.Proofs.Health.Courses

/-!
# Every session ends

An evaluation opens one session at most and ends it, whether it comes to its report or is abandoned
on the way. What it does in the session is to ask: a course of calls is told here by the questions
that it adds to what was seen, which holds of the whole if it holds of the parts and does not depend
on where the caller loses patience. The end of the session stands behind all of them.
-/

namespace BrokerWatch.Health

open Admin Cluster

variable {α β : Type}

/-! ### Courses that only ask -/

/-- Nothing is seen of what follows a course, if nothing is ever seen of it. -/
theorem events_bind_of_silent (course : Eval α) {next : α → Eval β}
    (h : ∀ a w, (next a w).2.events = w.events) (w : World) :
    ((course >>= next) w).2.events = (course w).2.events := by
  rcases hrun : course w with ⟨_ | a, w'⟩
  · rw [bind_abandoned hrun]
  · rw [bind_run hrun, h]

theorem events_wait (span : Duration) (w : World) : (wait span w).2.events = w.events := by
  rw [wait]
  cases w.gaveUp span <;> rfl

theorem events_bounded (timeout : Duration) (operation : String) (reply : Reply α) (w : World) :
    (bounded timeout operation reply w).2.events = w.events := by
  rw [bounded, events_bind_of_silent _ fun _ _ => rfl, events_wait]

def IsQuestion (id : Int32) (event : Event) : Prop :=
  event = .fetchMetadata ∨ event = .describeLogDirs id

/-- A course adds questions about a broker to what was seen and nothing else, also where it is
abandoned. -/
def Asks (id : Int32) (course : Eval α) : Prop :=
  ∀ w, ∃ questions, (∀ event ∈ questions, IsQuestion id event) ∧
    (course w).2.events = w.events ++ questions

namespace Asks

variable {id : Int32}

theorem of_silent {course : Eval α} (h : ∀ w, (course w).2.events = w.events) :
    Asks id course :=
  fun w => ⟨[], by simp, by rw [h, List.append_nil]⟩

theorem pure (a : α) : Asks id (Pure.pure a : Eval α) :=
  of_silent fun _ => rfl

theorem note (line : Logging.Record) : Asks id (Health.note line) :=
  of_silent fun _ => rfl

theorem bind {course : Eval α} {next : α → Eval β} (h : Asks id course)
    (hnext : ∀ a, Asks id (next a)) : Asks id (course >>= next) := by
  intro w
  obtain ⟨first, hfirst, hevents⟩ := h w
  rcases hrun : course w with ⟨_ | a, w'⟩
  · refine ⟨first, hfirst, ?_⟩
    rw [bind_abandoned hrun, ← hevents, hrun]
  · obtain ⟨more, hmore, hevents'⟩ := hnext a w'
    refine ⟨first ++ more, fun event hevent => ?_, ?_⟩
    · exact (List.mem_append.1 hevent).elim (hfirst event) (hmore event)
    · rw [hrun] at hevents
      rw [bind_run hrun, hevents', hevents, List.append_assoc]

/-- A call asks its question when it is made, and then only waits. -/
theorem call {event : Event} (hevent : IsQuestion id event) {take : Eval (Reply α)}
    (htake : ∀ w, (take w).2.events = w.events ++ [event]) (timeout : Duration)
    (operation : String) : Asks id (take >>= bounded timeout operation) := by
  refine bind (fun w => ⟨[event], by simpa using hevent, htake w⟩) fun reply => ?_
  exact of_silent (events_bounded timeout operation reply)

theorem closed (e : Evaluator) : Closed e (fun course => Asks e.brokerId course) where
  pure := pure
  bind := bind
  note := note
  fetchMetadata := call (.inl rfl)
    (fun w => by simp [takeMetadata, World.events, World.record]) _ _
  describeLogDirs := call (.inr rfl)
    (fun w => by simp [takeLogDirs, World.events, World.record]) _ _

end Asks

/-! ### One session -/

/-- A session ends in the same way, whether it is released or only dropped. -/
theorem closing_eq {last : Use} (h : last = .release ∨ last = .drop) :
    Guard.closing last = [.clientDropped, .released] := by
  rcases h with rfl | rfl <;> rfl

theorem events_inSession (body : Eval α) (w : World) :
    (inSession body w).2.events = (body w).2.events ++ [.clientDropped, .released] := by
  rcases hrun : body w with ⟨_ | a, w'⟩
  · simp [inSession, hrun, closing_eq (.inr rfl)]
  · simp [inSession, hrun, closing_eq (.inl rfl)]

/-- Whether an attempt to open a session gives one to the caller: it is open before the time is up,
and the caller has waited for it. -/
def World.opens (w : World) (timeout : Duration) : Bool :=
  (w.connectReply.within timeout).isOk && (w.gaveUp (spent timeout w.connectReply)).isNone

/-- An attempt to open a session is seen as one. It gives a session, comes to a failure or is
abandoned. -/
theorem connect_seen (timeout : Duration) (w : World) :
    ∃ w', w'.events = w.events ++ [.connect] ∧
      if w.opens timeout then connect timeout w = (some (.ok ()), w')
      else connect timeout w = (none, w') ∨
        ∃ failure, connect timeout w = (some (.error failure), w') := by
  cases hleft : w.gaveUp (spent timeout w.connectReply) with
  | some moment =>
      have hopens : w.opens timeout = false := by simp [World.opens, hleft]
      obtain ⟨w', hrun, hevents⟩ := connect_abandoned timeout hleft
      refine ⟨w', hevents, ?_⟩
      rw [hopens]
      exact .inl hrun
  | none =>
      obtain ⟨lines, hrun⟩ := connect_run timeout hleft
      rw [outcome_eq] at hrun
      refine ⟨(w.afterConnect timeout).withLog lines, w.events_afterConnect timeout, ?_⟩
      cases hwithin : w.connectReply.within timeout with
      | error text =>
          have hopens : w.opens timeout = false := by
            simp [World.opens, hwithin, Except.isOk, Except.toBool]
          rw [hwithin] at hrun
          rw [hopens]
          exact .inr ⟨_, hrun⟩
      | ok _ =>
          have hopens : w.opens timeout = true := by
            simp [World.opens, hwithin, hleft, Except.isOk, Except.toBool]
          rw [hwithin] at hrun
          rw [hopens]
          exact hrun

/-! ### One evaluation -/

/-- An attempt to open a session is all that is seen of an evaluation, unless it gives one. Then
there follow questions and the end of the session. -/
def SeenAs (id : Int32) (opened : Bool) (events : List Event) : Prop :=
  ∃ questions, (∀ event ∈ questions, IsQuestion id event) ∧
    events = .connect :: if opened then questions ++ [.clientDropped, .released] else []

theorem SeenAs.count_eq {id : Int32} {opened : Bool} {events : List Event}
    (h : SeenAs id opened events) :
    events.count .connect = 1 ∧ events.count .clientDropped = opened.toNat ∧
      events.count .released = opened.toNat := by
  obtain ⟨questions, hquestions, rfl⟩ := h
  have habsent : ∀ event, ¬IsQuestion id event → questions.count event = 0 :=
    fun event hother => List.count_eq_zero.2 fun hmem => hother (hquestions event hmem)
  cases opened with
  | false => exact ⟨rfl, rfl, rfl⟩
  | true =>
      have hconnect := habsent .connect (by simp [IsQuestion])
      have hdropped := habsent .clientDropped (by simp [IsQuestion])
      have hreleased := habsent .released (by simp [IsQuestion])
      simp [hconnect, hdropped, hreleased]

/-- What both evaluations do: where no session is given they say so, and otherwise they ask in the
session and log their outcome behind it. -/
theorem evaluation_seen {e : Evaluator} {body : Eval α} (hbody : Asks e.brokerId body)
    (line : α → Logging.Record) {next : Except Failure Unit → Eval α}
    (hrefused : ∀ failure w, (next (.error failure) w).2.events = w.events)
    (hopened : next (.ok ()) = do
      let report ← inSession body
      note (line report)
      return report)
    {w : World} (hw : w.events = []) :
    SeenAs e.brokerId (w.opens e.timeout) ((connect e.timeout >>= next) w).2.events := by
  obtain ⟨w', hevents, hconnect⟩ := connect_seen e.timeout w
  rw [hw, List.nil_append] at hevents
  cases hopens : w.opens e.timeout with
  | true =>
      rw [hopens, if_pos rfl] at hconnect
      obtain ⟨questions, hquestions, hasked⟩ := hbody w'
      refine ⟨questions, hquestions, ?_⟩
      rw [bind_run hconnect, hopened, events_bind_of_silent _ fun _ _ => rfl, events_inSession,
        hasked, hevents]
      rfl
  | false =>
      rw [hopens, if_neg (by decide)] at hconnect
      refine ⟨[], by simp, ?_⟩
      rcases hconnect with habandoned | ⟨failure, hfailed⟩
      · rw [bind_abandoned habandoned, hevents]
        rfl
      · rw [bind_run hfailed, hrefused, hevents]
        rfl

namespace Evaluator

variable (e : Evaluator)

theorem liveness_seen {w : World} (hw : w.events = []) :
    SeenAs e.brokerId (w.opens e.timeout) (e.liveness w).2.events :=
  evaluation_seen (Asks.closed e).livenessInSession _ (fun _ _ => rfl) rfl hw

theorem readiness_seen {w : World} (hw : w.events = []) :
    SeenAs e.brokerId (w.opens e.timeout) (e.readiness w).2.events :=
  evaluation_seen (Asks.closed e).readinessInSession _ (fun _ _ => rfl) rfl hw

end Evaluator

/-! ### Evaluations one after the other -/

inductive Probe
  | liveness
  | readiness

/-- An evaluation that is asked for, and how long the caller waits for its report if not for ever.
-/
structure Visit where
  probe : Probe
  patience : Option Duration

/-- What is known of an evaluation afterwards: whether a session was given to it, and what was seen.
-/
structure Episode where
  opened : Bool
  events : List Event

namespace Evaluator

variable (e : Evaluator)

/-- The world after an evaluation, in which no more is seen than the evaluation itself. -/
def visit (v : Visit) (w : World) : World :=
  match v.probe with
  | .liveness => (e.liveness (w.beginning v.patience)).2
  | .readiness => (e.readiness (w.beginning v.patience)).2

/-- The evaluations that are asked for in turn, each in the world that the one before has left. -/
def episodes : List Visit → World → List Episode
  | [], _ => []
  | v :: visits, w =>
    ⟨(w.beginning v.patience).opens e.timeout, (e.visit v w).events⟩ ::
      episodes visits (e.visit v w)

theorem visit_seen (v : Visit) (w : World) :
    SeenAs e.brokerId ((w.beginning v.patience).opens e.timeout) (e.visit v w).events := by
  rw [visit]
  cases v.probe with
  | liveness => exact e.liveness_seen rfl
  | readiness => exact e.readiness_seen rfl

theorem episodes_seen (visits : List Visit) (w : World) :
    ∀ episode ∈ e.episodes visits w, SeenAs e.brokerId episode.opened episode.events := by
  induction visits generalizing w with
  | nil => simp [episodes]
  | cons v visits ih =>
      rw [episodes, List.forall_mem_cons]
      exact ⟨e.visit_seen v w, ih _⟩

theorem length_episodes (visits : List Visit) (w : World) :
    (e.episodes visits w).length = visits.length := by
  induction visits generalizing w with
  | nil => rfl
  | cons v visits ih => rw [episodes, List.length_cons, ih, List.length_cons]

end Evaluator

/-- Over episodes, each attempt to open a session is seen once, and the end of a session as often as
one was given. -/
theorem count_flatMap_events {id : Int32} {episodes : List Episode}
    (h : ∀ episode ∈ episodes, SeenAs id episode.opened episode.events) :
    (episodes.flatMap (·.events)).count .connect = episodes.length ∧
      (episodes.flatMap (·.events)).count .clientDropped = episodes.countP (·.opened) ∧
      (episodes.flatMap (·.events)).count .released = episodes.countP (·.opened) := by
  induction episodes with
  | nil => simp
  | cons episode episodes ih =>
      obtain ⟨hfirst, hmore⟩ := List.forall_mem_cons.1 h
      obtain ⟨hconnect, hdropped, hreleased⟩ := hfirst.count_eq
      obtain ⟨ihconnect, ihdropped, ihreleased⟩ := ih hmore
      have hopened : (episode :: episodes).countP (·.opened) =
          episode.opened.toNat + episodes.countP (·.opened) := by
        rw [List.countP_cons, Nat.add_comm]
        cases episode.opened <;> rfl
      rw [List.flatMap_cons, List.count_append, List.count_append, List.count_append, hopened,
        hconnect, hdropped, hreleased, ihconnect, ihdropped, ihreleased, List.length_cons]
      omega

/-- Evaluations one after the other against any cluster, each to its report or until its caller has
lost patience: each attempts once to open a session. If it is given one, it asks in it about the
broker, and behind the last question the client is dropped and the release reported, once each; if
not, nothing more is seen of it. So there are as many releases as sessions. -/
theorem every_session_ends (e : Evaluator) (visits : List Visit) (w : World) :
    let episodes := e.episodes visits w
    let seen := episodes.flatMap (·.events)
    episodes.length = visits.length ∧
      (∀ episode ∈ episodes, ∃ questions,
        (∀ event ∈ questions, event = .fetchMetadata ∨ event = .describeLogDirs e.brokerId) ∧
        episode.events = .connect ::
          if episode.opened then questions ++ [.clientDropped, .released] else []) ∧
      seen.count .connect = visits.length ∧
      seen.count .clientDropped = episodes.countP (·.opened) ∧
      seen.count .released = episodes.countP (·.opened) := by
  intro episodes seen
  have hseen := e.episodes_seen visits w
  have hlength := e.length_episodes visits w
  obtain ⟨hconnect, hends⟩ := count_flatMap_events hseen
  exact ⟨hlength, hseen, hconnect.trans hlength, hends⟩

end BrokerWatch.Health
