import BrokerWatch.Proofs.Cluster.Verdicts
import BrokerWatch.Proofs.Health.Calls

/-!
# The course of a readiness evaluation

A readiness evaluation has five stages, each with a call of its own: a session, the broker's
registration, a controller, the broker's replicas, its log directories. What the five calls would
come to is gathered beforehand, and the calls that are made and the report are told from that alone:
the stages up to the first that is not passed are run through, and the report shows what they saw.
-/

namespace BrokerWatch.Health

open Admin Cluster

/-- A stage of an evaluation: its call, and in words what keeps it from being passed. -/
structure Stage where
  call : Event
  hindrance : Option String

/-- The stage whose call came to a value or not, and which is passed by some values only. -/
def Stage.of {α : Type} (call : Event) (operation : String) (got : Except String α)
    (passes : α → Bool) (problem : String) : Stage where
  call := call
  hindrance := match got with
    | .error text => some (obstacle operation text)
    | .ok a => if passes a then none else some problem

def Stage.passed (s : Stage) : Bool := s.hindrance.isNone

/-- The stages that are run through: those that are passed, and the first that is not. -/
def Stage.runThrough (stages : List Stage) : List Stage :=
  stages.takeWhile (·.passed) ++ (stages.find? (!·.passed)).toList

theorem Stage.runThrough_of_passed {s : Stage} (h : s.hindrance = none) (stages : List Stage) :
    runThrough (s :: stages) = s :: runThrough stages := by
  have hpassed : s.passed := by rw [passed, h, Option.isNone_none]
  rw [runThrough, List.takeWhile_cons_of_pos hpassed, List.find?_cons_of_neg (by simp [hpassed])]
  rfl

theorem Stage.runThrough_of_hindrance {s : Stage} {text : String} (h : s.hindrance = some text)
    (stages : List Stage) : runThrough (s :: stages) = [s] := by
  have hpassed : ¬s.passed := by simp [passed, h]
  rw [runThrough, List.takeWhile_cons_of_neg hpassed, List.find?_cons_of_pos (by simp [hpassed])]
  rfl

/-- What the calls of an evaluation come to if they are made. -/
structure Gathered where
  session : Except String Unit
  registration : Except String Metadata
  election : Except String Metadata
  replication : Except String Metadata
  directories : Except String LogDirs

/-- What the next calls come to, each being given a time. -/
def World.gathered (w : World) (timeout : Duration) : Gathered where
  session := w.connectReply.within timeout
  registration := (w.snapshotReply 0).within timeout
  election := (w.snapshotReply 1).within timeout
  replication := (w.snapshotReply 2).within timeout
  directories := w.logDirsReply.within timeout

namespace Gathered

def stages (g : Gathered) (id : Int32) : List Stage :=
  [.of .connect "failed to create admin client" g.session (fun _ => true) "",
    .of .fetchMetadata "failed to fetch metadata" g.registration (·.hasBroker id)
      "broker not registered in cluster metadata",
    .of .fetchMetadata "failed to fetch metadata" g.election (·.hasController)
      "no controller elected",
    .of .fetchMetadata "failed to fetch metadata" g.replication (·.lagging id == 0)
      "broker has under-replicated partitions",
    .of (.describeLogDirs id) "failed to describe log dirs" g.directories
      (Findings.scan · |>.isHealthy) "log directories unhealthy"]

def course (g : Gathered) (id : Int32) : List Stage :=
  Stage.runThrough (g.stages id)

/-- What the last of the stages that are run through is kept from being passed by. -/
def hindrance (g : Gathered) (id : Int32) : Option String :=
  (g.course id).getLast?.bind (·.hindrance)

/-- What is seen in a stage, the first one having the number zero: nothing where it is not run
through or its call came to no value. -/
def seen {α β : Type} (g : Gathered) (id : Int32) (stage : Nat) (got : Except String α)
    (look : α → β) : Option β :=
  if stage < (g.course id).length then (got.map look).toOption else none

/-- The report of the stages that are run through. -/
def readiness (g : Gathered) (id : Int32) : Readiness where
  status := if (g.hindrance id).isNone then .healthy else .unhealthy
  brokerId := id
  brokerRegistered := (g.seen id 1 g.registration (·.hasBroker id)).getD false
  controllerElected := (g.seen id 2 g.election (·.hasController)).getD false
  underReplicated := (g.seen id 3 g.replication (·.lagging id)).getD 0
  logDirsHealthy := (g.seen id 4 g.directories (Findings.scan · |>.isHealthy)).getD false
  error := g.hindrance id

/-- The events of the end of the session, if there was one. -/
def closing (g : Gathered) : List Event :=
  if g.session.isOk then [.clientDropped, .released] else []

end Gathered

theorem Stage.passed_of {α : Type} (call : Event) (operation : String) (got : Except String α)
    (passes : α → Bool) (problem : String) :
    (Stage.of call operation got passes problem).passed ↔ ∃ a, got = .ok a ∧ passes a := by
  cases got with
  | error text => simp [Stage.of, Stage.passed]
  | ok a => cases h : passes a <;> simp [Stage.of, Stage.passed, h]

namespace Gathered

/-- A report has the failure text of the first stage that is not passed. -/
theorem hindrance_eq_findSome? (g : Gathered) (id : Int32) :
    g.hindrance id = (g.stages id).findSome? (·.hindrance) := by
  rw [hindrance, course]
  induction g.stages id with
  | nil => rfl
  | cons s stages ih =>
      cases hs : s.hindrance with
      | none =>
          rw [Stage.runThrough_of_passed hs, List.getLast?_cons, List.findSome?_cons, hs, ← ih]
          cases (Stage.runThrough stages).getLast? with
          | none => simp [hs]
          | some last => rfl
      | some text =>
          rw [Stage.runThrough_of_hindrance hs, List.findSome?_cons, hs]
          exact hs

/-- Nothing is left of a course to be kept from exactly if all stages are passed. -/
theorem hindrance_eq_none_iff (g : Gathered) (id : Int32) :
    g.hindrance id = none ↔ ∀ s ∈ g.stages id, s.passed := by
  simp only [hindrance_eq_findSome?, List.findSome?_eq_none_iff, Stage.passed,
    Option.isNone_iff_eq_none]

/-- A broker is ready exactly if a session opens and the snapshot of each stage, taken for that
stage alone, shows what the stage is about. -/
theorem status_readiness (g : Gathered) (id : Int32) :
    (g.readiness id).status = .healthy ↔
      (∃ u, g.session = .ok u) ∧
      (∃ m, g.registration = .ok m ∧ ∃ broker ∈ m.brokers, broker.id = id) ∧
      (∃ m, g.election = .ok m ∧ 0 ≤ m.controller) ∧
      (∃ m, g.replication = .ok m ∧
        ∀ topic ∈ m.topics, ∀ p ∈ topic.partitions, id ∈ p.replicas → id ∈ p.inSync) ∧
      ∃ dirs, g.directories = .ok dirs ∧ ∀ entry ∈ dirs.entries, entry.2.isHealthy := by
  have hstatus : (g.readiness id).status = .healthy ↔ g.hindrance id = none := by
    rw [readiness]
    cases g.hindrance id <;> simp
  simp only [hstatus, hindrance_eq_none_iff, stages, List.forall_mem_cons, Stage.passed_of,
    Metadata.hasBroker_iff, Metadata.hasController_iff, beq_iff_eq, Metadata.lagging_eq_zero_iff,
    Findings.isHealthy_scan, List.not_mem_nil, false_implies, implies_true, and_true]

end Gathered

/-! ### One stage -/

namespace Evaluator

section Looking

variable (e : Evaluator) {w : World} (hw : w.patience = none)
include hw

private theorem onSnapshot_run {α : Type} (look : Metadata → α) :
    e.onSnapshot look w =
      (some ((outcome e.timeout "failed to fetch metadata" (w.snapshotReply 0)).map look),
        w.afterSnapshot e.timeout) := by
  rw [onSnapshot, bind_run (fetchMetadata_run e.timeout hw)]
  rfl

theorem onSnapshot_error {α : Type} (look : Metadata → α) {text : String}
    (h : (w.snapshotReply 0).within e.timeout = .error text) :
    e.onSnapshot look w =
      (some (.error (.connection (obstacle "failed to fetch metadata" text))),
        w.afterSnapshot e.timeout) := by
  rw [onSnapshot_run e hw, outcome_eq, h]
  rfl

theorem onSnapshot_ok {α : Type} (look : Metadata → α) {snapshot : Metadata}
    (h : (w.snapshotReply 0).within e.timeout = .ok snapshot) :
    e.onSnapshot look w = (some (.ok (look snapshot)), w.afterSnapshot e.timeout) := by
  rw [onSnapshot_run e hw, outcome_eq, h]
  rfl

end Looking

theorem forM_note_run (lines : List Logging.Record) (w : World) :
    lines.forM note w = (some (), w.withLog (w.log ++ lines)) := by
  induction lines generalizing w with
  | nil =>
      show (some (), w) = _
      rw [List.append_nil]
      rfl
  | cons line lines ih =>
      have hnote : note line w = (some (), w.noted line) := rfl
      change (note line >>= fun _ => lines.forM note) w = _
      rw [bind_run hnote, ih]
      simp [World.noted, World.withLog]

theorem logDirsHealthy_run (e : Evaluator) {w : World} (hw : w.patience = none) :
    ∃ lines, e.logDirsHealthy w =
      (some ((outcome e.timeout "failed to describe log dirs" w.logDirsReply).map
          (Findings.scan · |>.isHealthy)),
        (w.afterLogDirs e.timeout e.brokerId).withLog lines) := by
  rw [logDirsHealthy, bind_run (describeLogDirs_run e.timeout e.brokerId hw)]
  cases outcome e.timeout "failed to describe log dirs" w.logDirsReply with
  | error failure => exact ⟨_, rfl⟩
  | ok dirs =>
      have hlines := forM_note_run (e.findingsLines (Findings.scan dirs))
        (w.afterLogDirs e.timeout e.brokerId)
      exact ⟨_, bind_run hlines⟩

section Checks

variable {α β : Type} {w w' : World}

theorem checks_bind_ok {checks : Checks α} {a : α} (h : checks.run w = (some (.ok a), w'))
    (next : α → Checks β) : (checks >>= next).run w = (next a).run w' := by
  rw [ExceptT.run_bind, bind_run h]

theorem checks_bind_error {checks : Checks α} {ending : Readiness × Setback}
    (h : checks.run w = (some (.error ending), w')) (next : α → Checks β) :
    (checks >>= next).run w = (some (.error ending), w') := by
  rw [ExceptT.run_bind, bind_run h]
  rfl

theorem lift_run {course : Eval α} {a : α} (h : course w = (some a, w')) :
    (liftM course : Checks α).run w = (some (.ok a), w') := by
  change (course >>= fun a => pure (Except.ok a)) w = _
  rw [bind_run h]
  rfl

/-- A stage of the checks: it looks at a value, sets it in the report, and ends the course there if
the value is bad. -/
def stage (report : Readiness) (check : Eval (Except Failure α)) (set : α → Readiness)
    (bad : α → Bool) (problem : Problem) (next : α → Checks β) : Checks β := do
  let a ← valueOf report check
  stopIf (bad a) (set a) problem
  next a

variable {check : Eval (Except Failure α)} (report : Readiness) (set : α → Readiness)
  (bad : α → Bool) (problem : Problem) (next : α → Checks β)

/-- Where the call came to no value, the course ends with the report as it was. -/
theorem stage_error {failure : Failure} (h : check w = (some (.error failure), w')) :
    (stage report check set bad problem next).run w =
      (some (.error (report, .blocked failure)), w') := by
  refine checks_bind_error ?_ _
  rw [valueOf, checks_bind_ok (lift_run h)]
  rfl

private theorem stage_ok {a : α} (h : check w = (some (.ok a), w')) :
    (stage report check set bad problem next).run w =
      (stopIf (bad a) (set a) problem >>= fun _ => next a).run w' := by
  refine checks_bind_ok ?_ _
  rw [valueOf, checks_bind_ok (lift_run h)]
  rfl

/-- Where the call came to a bad value, the course ends with the report that shows it. -/
theorem stage_bad {a : α} (h : check w = (some (.ok a), w')) (hbad : bad a = true) :
    (stage report check set bad problem next).run w =
      (some (.error (set a, .found problem)), w') := by
  rw [stage_ok report set bad problem next h]
  refine checks_bind_error ?_ _
  rw [stopIf, if_pos hbad]
  rfl

theorem stage_good {a : α} (h : check w = (some (.ok a), w')) (hgood : bad a = false) :
    (stage report check set bad problem next).run w = (next a).run w' := by
  rw [stage_ok report set bad problem next h]
  refine checks_bind_ok (a := ⟨⟩) ?_ _
  rw [stopIf, if_neg (by simp [hgood])]
  rfl

end Checks

/-! ### The stages together -/

/-- The last stage, in which the log directories are looked at. -/
def directoryStage (e : Evaluator) (report : Readiness) : Checks Readiness :=
  stage report e.logDirsHealthy (fun healthy => { report with logDirsHealthy := healthy }) (!·)
    .logDirs fun healthy => return { report with logDirsHealthy := healthy, status := .healthy }

def replicaStages (e : Evaluator) (report : Readiness) : Checks Readiness :=
  stage report e.lagging (fun n => { report with underReplicated := n }) (0 < ·)
    .underReplicated fun n => e.directoryStage { report with underReplicated := n }

def controllerStages (e : Evaluator) (report : Readiness) : Checks Readiness :=
  stage report e.controllerElected (fun elected => { report with controllerElected := elected })
    (!·) .noController fun elected =>
      e.replicaStages { report with controllerElected := elected }

theorem readinessChecks_eq (e : Evaluator) :
    e.readinessChecks =
      stage { brokerId := e.brokerId } e.registered
        (fun registered => { brokerId := e.brokerId, brokerRegistered := registered }) (!·)
        .notRegistered fun registered =>
          e.controllerStages { brokerId := e.brokerId, brokerRegistered := registered } :=
  rfl

/-- The report that a course of checks ends with. -/
def ending : Except (Readiness × Setback) Readiness → Readiness
  | .ok report => report
  | .error (report, setback) => report.failed setback

attribute [local simp] Gathered.readiness Gathered.hindrance Gathered.seen Gathered.course
  Gathered.stages Stage.of Stage.passed Stage.runThrough ending Readiness.failed Setback.message Problem.message
  Except.map Except.toOption

/-- What the checks from a stage on come to, the stages before it being passed: the report of the
whole course, and the calls of the course from that stage on. -/
def Completes (e : Evaluator) (g : Gathered) (stage : Nat) (checks : Checks Readiness)
    (w : World) : Prop :=
  ∃ got w', checks.run w = (some got, w') ∧ ending got = g.readiness e.brokerId ∧
    w'.events = w.events ++ ((g.course e.brokerId).drop stage).map (·.call)

/-- A passed stage leaves the stages behind it to the checks behind it. -/
theorem Completes.of_passed {e : Evaluator} {g : Gathered} {stage : Nat}
    {checks next : Checks Readiness} {w w' : World} {event : Event}
    (hnext : Completes e g (stage + 1) next w') (hrun : checks.run w = next.run w')
    (hevents : w'.events = w.events ++ [event])
    (hcourse : ((g.course e.brokerId).drop stage).map (·.call) =
      event :: ((g.course e.brokerId).drop (stage + 1)).map (·.call)) :
    Completes e g stage checks w := by
  obtain ⟨got, w'', hgot, hending, hcalls⟩ := hnext
  refine ⟨got, w'', hrun.trans hgot, hending, ?_⟩
  rw [hcalls, hevents, hcourse, List.append_assoc, List.singleton_append]

section Stages

variable (e : Evaluator) {w : World} (hw : w.patience = none) {g : Gathered}
  (hsession : g.session = .ok ()) {first second third : Metadata}
include hw hsession

theorem directoryStage_completes
    (hfirst : g.registration = .ok first) (hbroker : first.hasBroker e.brokerId)
    (hsecond : g.election = .ok second) (hcontroller : second.hasController)
    (hthird : g.replication = .ok third) (hlagging : third.lagging e.brokerId = 0)
    (hreply : w.logDirsReply.within e.timeout = g.directories) :
    Completes e g 4 (e.directoryStage
      { brokerId := e.brokerId, brokerRegistered := true, controllerElected := true }) w := by
  obtain ⟨lines, hcheck⟩ := logDirsHealthy_run e hw
  rw [outcome_eq, hreply] at hcheck
  cases hg : g.directories with
  | error text =>
      rw [hg] at hcheck
      refine ⟨_, _, stage_error _ _ _ _ _ hcheck, ?_, ?_⟩ <;>
        simp [hsession, hfirst, hbroker, hsecond, hcontroller, hthird, hlagging, hg]
  | ok dirs =>
      rw [hg] at hcheck
      cases hhealthy : (Findings.scan dirs).isHealthy with
      | false =>
          refine ⟨_, _, stage_bad _ _ _ _ _ hcheck (by simp [hhealthy]), ?_, ?_⟩ <;>
            simp [hsession, hfirst, hbroker, hsecond, hcontroller, hthird, hlagging, hg, hhealthy]
      | true =>
          refine ⟨_, _, stage_good _ _ _ _ _ hcheck (by simp [hhealthy]), ?_, ?_⟩ <;>
            simp [hsession, hfirst, hbroker, hsecond, hcontroller, hthird, hlagging, hg, hhealthy]

theorem replicaStages_completes
    (hfirst : g.registration = .ok first) (hbroker : first.hasBroker e.brokerId)
    (hsecond : g.election = .ok second) (hcontroller : second.hasController)
    (hreply : (w.snapshotReply 0).within e.timeout = g.replication)
    (hlast : w.logDirsReply.within e.timeout = g.directories) :
    Completes e g 3 (e.replicaStages
      { brokerId := e.brokerId, brokerRegistered := true, controllerElected := true }) w := by
  cases hg : g.replication with
  | error text =>
      have hcheck := onSnapshot_error e hw (·.lagging e.brokerId) (hreply.trans hg)
      refine ⟨_, _, stage_error _ _ _ _ _ hcheck, ?_, ?_⟩ <;>
        simp [hsession, hfirst, hbroker, hsecond, hcontroller, hg]
  | ok third =>
      have hcheck := onSnapshot_ok e hw (·.lagging e.brokerId) (hreply.trans hg)
      by_cases hlagging : third.lagging e.brokerId = 0
      · have hnext := directoryStage_completes (w := w.afterSnapshot e.timeout) e hw hsession
          hfirst hbroker hsecond hcontroller hg hlagging hlast
        refine hnext.of_passed ?_ (w.events_afterSnapshot e.timeout) ?_
        · exact (stage_good _ _ _ _ _ hcheck (by simp [hlagging])).trans (by rw [hlagging])
        · simp [hsession, hfirst, hbroker, hsecond, hcontroller, hg, hlagging]
      · refine ⟨_, _, stage_bad _ _ _ _ _ hcheck (by simp; omega), ?_, ?_⟩ <;>
          simp [hsession, hfirst, hbroker, hsecond, hcontroller, hg, hlagging]

theorem controllerStages_completes
    (hfirst : g.registration = .ok first) (hbroker : first.hasBroker e.brokerId)
    (hreply : (w.snapshotReply 0).within e.timeout = g.election)
    (hnext : (w.snapshotReply 1).within e.timeout = g.replication)
    (hlast : w.logDirsReply.within e.timeout = g.directories) :
    Completes e g 2 (e.controllerStages
      { brokerId := e.brokerId, brokerRegistered := true }) w := by
  cases hg : g.election with
  | error text =>
      have hcheck := onSnapshot_error e hw (·.hasController) (hreply.trans hg)
      refine ⟨_, _, stage_error _ _ _ _ _ hcheck, ?_, ?_⟩ <;>
        simp [hsession, hfirst, hbroker, hg]
  | ok second =>
      have hcheck := onSnapshot_ok e hw (·.hasController) (hreply.trans hg)
      by_cases hcontroller : second.hasController
      · have hnext := replicaStages_completes (w := w.afterSnapshot e.timeout) e hw hsession
          hfirst hbroker hg hcontroller (by simpa using hnext) hlast
        refine hnext.of_passed ?_ (w.events_afterSnapshot e.timeout) ?_
        · exact (stage_good _ _ _ _ _ hcheck (by simp [hcontroller])).trans (by rw [hcontroller])
        · simp [hsession, hfirst, hbroker, hg, hcontroller]
      · refine ⟨_, _, stage_bad _ _ _ _ _ hcheck (by simp [hcontroller]), ?_, ?_⟩ <;>
          simp [hsession, hfirst, hbroker, hg, hcontroller]

theorem readinessChecks_completes
    (hreply : (w.snapshotReply 0).within e.timeout = g.registration)
    (hsecond : (w.snapshotReply 1).within e.timeout = g.election)
    (hthird : (w.snapshotReply 2).within e.timeout = g.replication)
    (hlast : w.logDirsReply.within e.timeout = g.directories) :
    Completes e g 1 e.readinessChecks w := by
  rw [readinessChecks_eq]
  cases hg : g.registration with
  | error text =>
      have hcheck := onSnapshot_error e hw (·.hasBroker e.brokerId) (hreply.trans hg)
      refine ⟨_, _, stage_error _ _ _ _ _ hcheck, ?_, ?_⟩ <;>
        simp [hsession, hg]
  | ok first =>
      have hcheck := onSnapshot_ok e hw (·.hasBroker e.brokerId) (hreply.trans hg)
      by_cases hbroker : first.hasBroker e.brokerId
      · have hnext := controllerStages_completes (w := w.afterSnapshot e.timeout) e hw hsession
          hg hbroker (by simpa using hsecond) (by simpa using hthird) hlast
        refine hnext.of_passed ?_ (w.events_afterSnapshot e.timeout) ?_
        · exact (stage_good _ _ _ _ _ hcheck (by simp [hbroker])).trans (by rw [hbroker])
        · simp [hsession, hg, hbroker]
      · refine ⟨_, _, stage_bad _ _ _ _ _ hcheck (by simp [hbroker]), ?_, ?_⟩ <;>
          simp [hsession, hg, hbroker]

end Stages

/-! ### The session -/

theorem readinessInSession_run (e : Evaluator) {got : Except (Readiness × Setback) Readiness}
    {w w' : World} (h : e.readinessChecks.run w = (some got, w')) :
    ∃ w'', e.readinessInSession w = (some (ending got), w'') ∧ w''.events = w'.events := by
  rw [readinessInSession, bind_run h]
  rcases got with ⟨report, setback⟩ | report
  · exact ⟨w'.noted (e.readinessLine report setback), rfl, rfl⟩
  · exact ⟨w', rfl, rfl⟩

theorem inSession_run {α : Type} {body : Eval α} {a : α} {w w' : World}
    (h : body w = (some a, w')) :
    inSession body w =
      (some a, (w'.record [.clientDropped, .released]).noted
        (sessionNote "admin session closed")) := by
  rw [inSession, h]
  rfl

/-- An evaluation runs through the course of its stages and reports what it saw there; the session
ends behind the last stage if there was one. -/
theorem readiness_run (e : Evaluator) {w : World} (hw : w.patience = none)
    (hevents : w.events = []) :
    ∃ w', e.readiness w = (some ((w.gathered e.timeout).readiness e.brokerId), w') ∧
      w'.events = ((w.gathered e.timeout).course e.brokerId).map (·.call) ++
        (w.gathered e.timeout).closing := by
  obtain ⟨lines, hconnect⟩ := connect_run e.timeout (World.gaveUp_of_patient hw _)
  rw [outcome_eq] at hconnect
  cases hg : w.connectReply.within e.timeout with
  | error text =>
      have hsession : (w.gathered e.timeout).session = .error text := hg
      rw [hg] at hconnect
      have hreport : (w.gathered e.timeout).readiness e.brokerId =
          { brokerId := e.brokerId, error := some (obstacle "failed to create admin client" text) } := by
        simp [hsession]
      rw [readiness, bind_run hconnect, hreport]
      refine ⟨_, rfl, ?_⟩
      simp [hsession, Gathered.closing, hevents, Except.isOk, Except.toBool]
  | ok _ =>
      have hsession : (w.gathered e.timeout).session = .ok () := hg
      rw [hg] at hconnect
      obtain ⟨got, w₁, hchecks, hending, hcalls⟩ := readinessChecks_completes
        (w := (w.afterConnect e.timeout).withLog lines) e hw hsession rfl rfl rfl rfl
      obtain ⟨w₂, hbody, hsame⟩ := readinessInSession_run e hchecks
      rw [hending] at hbody
      refine ⟨_, (bind_run hconnect).trans (bind_run (inSession_run hbody)), ?_⟩
      have hfirst : ((w.gathered e.timeout).course e.brokerId).map (·.call) =
          .connect :: (((w.gathered e.timeout).course e.brokerId).drop 1).map (·.call) := by
        simp [hsession]
      simp only [World.events_noted, World.events_record, World.events_withLog,
        World.events_afterConnect, hsame, hcalls, hevents, hfirst]
      simp [Gathered.closing, hsession, Except.isOk, Except.toBool]

/-- What a readiness evaluation does and reports, whatever the cluster replies: it makes the calls of
the stages up to the first that is not passed, each stage judging a snapshot of its own. -/
theorem readiness_report (e : Evaluator) (w : World) :
    let g := w.gathered e.timeout
    ∃ w', e.readiness (w.beginning none) = (some (g.readiness e.brokerId), w') ∧
      w'.events = (g.course e.brokerId).map (·.call) ++ g.closing ∧
      ((g.readiness e.brokerId).status = .healthy ↔
        (∃ u, g.session = .ok u) ∧
        (∃ m, g.registration = .ok m ∧ ∃ broker ∈ m.brokers, broker.id = e.brokerId) ∧
        (∃ m, g.election = .ok m ∧ 0 ≤ m.controller) ∧
        (∃ m, g.replication = .ok m ∧
          ∀ topic ∈ m.topics, ∀ p ∈ topic.partitions,
            e.brokerId ∈ p.replicas → e.brokerId ∈ p.inSync) ∧
        ∃ dirs, g.directories = .ok dirs ∧ ∀ entry ∈ dirs.entries, entry.2.isHealthy) := by
  intro g
  obtain ⟨w', hrun, hevents⟩ := readiness_run e (w := w.beginning none) rfl rfl
  exact ⟨w', hrun, hevents, g.status_readiness e.brokerId⟩

end Evaluator

end BrokerWatch.Health
