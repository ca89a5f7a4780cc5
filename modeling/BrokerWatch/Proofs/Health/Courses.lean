import BrokerWatch.Proofs.Health.Readiness

/-!
# What holds of every course in a session

What an evaluation does in its session is put together from the two questions about the broker, log
lines and values. A property that these have, and that courses keep where one goes on behind
another, holds of what both do in their sessions, and nothing else need be known about it. Where
sessions keep it as well, it holds of the evaluations.
-/

namespace BrokerWatch.Health

open Admin Cluster

/-- A course that takes a reply, which depends on the cluster alone and is gone behind it. -/
def Takes {α : Type} (take : Eval (Reply α)) (event : Event) : Prop :=
  ∃ (reply : Behaviour → Reply α) (rest : Behaviour → Behaviour), ∀ w,
    take w = (some (reply w.cluster), { w.record [event] with cluster := rest w.cluster })

theorem takes_connect : Takes takeConnect .connect :=
  ⟨fun c => (inTurn (.now (.ok ())) c.connect).1,
    fun c => { c with connect := (inTurn (.now (.ok ())) c.connect).2 }, fun _ => rfl⟩

theorem takes_metadata : Takes takeMetadata .fetchMetadata :=
  ⟨fun c => (inTurn (.now (.error noReply)) c.metadata).1,
    fun c => { c with metadata := (inTurn (.now (.error noReply)) c.metadata).2 }, fun _ => rfl⟩

theorem takes_logDirs (id : Int32) : Takes (takeLogDirs id) (.describeLogDirs id) :=
  ⟨fun c => (inTurn (.now (.error noReply)) c.logDirs).1,
    fun c => { c with logDirs := (inTurn (.now (.error noReply)) c.logDirs).2 }, fun _ => rfl⟩

/-- A property of courses that the questions of an evaluator have, and all that is put together from
courses with it. -/
structure Closed (e : Evaluator) (P : ∀ {α : Type}, Eval α → Prop) : Prop where
  pure : ∀ {α : Type} (a : α), P (Pure.pure a : Eval α)
  bind : ∀ {α β : Type} {course : Eval α} {next : α → Eval β}, P course → (∀ a, P (next a)) →
    P (course >>= next)
  note : ∀ line, P (Health.note line)
  fetchMetadata : P (Health.fetchMetadata e.timeout)
  describeLogDirs : P (Health.describeLogDirs e.timeout e.brokerId)

namespace Closed

variable {e : Evaluator} {P : ∀ {α : Type}, Eval α → Prop} (h : Closed e P) {α β : Type}
include h

theorem onSnapshot (look : Metadata → α) : P (e.onSnapshot look) :=
  h.bind h.fetchMetadata fun _ => h.pure _

theorem notes (lines : List Logging.Record) : P (lines.forM Health.note) := by
  induction lines with
  | nil => exact h.pure _
  | cons line lines ih => exact h.bind (h.note line) fun _ => ih

theorem logDirsHealthy : P e.logDirsHealthy := by
  refine h.bind h.describeLogDirs fun got => ?_
  cases got with
  | error failure => exact h.pure _
  | ok dirs => exact h.bind (h.notes _) fun _ => h.pure _

theorem livenessInSession : P e.livenessInSession := by
  refine h.bind (h.onSnapshot _) fun got => ?_
  cases Evaluator.livenessSetback? got with
  | some setback => exact h.bind (h.note _) fun _ => h.pure _
  | none => exact h.pure _

section Checks

open Evaluator

theorem checks_bind {checks : Checks α} {next : α → Checks β} (hchecks : P checks.run)
    (hnext : ∀ a, P (next a).run) : P (checks >>= next).run := by
  rw [ExceptT.run_bind]
  refine h.bind hchecks fun got => ?_
  cases got with
  | error ending => exact h.pure _
  | ok a => exact hnext a

theorem stage {check : Eval (Except Failure α)} (hcheck : P check) (report : Readiness)
    (set : α → Readiness) (bad : α → Bool) (problem : Problem) {next : α → Checks β}
    (hnext : ∀ a, P (next a).run) : P (stage report check set bad problem next).run := by
  have hlift : P (liftM check : Checks (Except Failure α)).run :=
    h.bind hcheck fun _ => h.pure _
  refine h.checks_bind (h.checks_bind hlift fun got => ?_) fun a =>
    h.checks_bind ?_ fun _ => hnext a
  · cases got <;> exact h.pure _
  · rw [stopIf]
    split <;> exact h.pure _

theorem readinessInSession : P e.readinessInSession := by
  have hchecks : P e.readinessChecks.run := by
    rw [readinessChecks_eq]
    refine h.stage (h.onSnapshot _) _ _ _ _ fun _ => ?_
    refine h.stage (h.onSnapshot _) _ _ _ _ fun _ => ?_
    refine h.stage (h.onSnapshot _) _ _ _ _ fun _ => ?_
    exact h.stage h.logDirsHealthy _ _ _ _ fun _ => h.pure _
  refine h.bind hchecks fun got => ?_
  cases got with
  | ok report => exact h.pure _
  | error ending => exact h.bind (h.note _) fun _ => h.pure _

end Checks

end Closed

/-- Such a property that the attempt to open a session has too, and that goes over from what is done
in a session to the session. -/
structure Enclosed (e : Evaluator) (P : ∀ {α : Type}, Eval α → Prop) : Prop extends
    Closed e P where
  connect : P (Health.connect e.timeout)
  inSession : ∀ {α : Type} {body : Eval α}, P body → P (Health.inSession body)

namespace Enclosed

variable {e : Evaluator} {P : ∀ {α : Type}, Eval α → Prop} (h : Enclosed e P)
include h

theorem liveness : P e.liveness := by
  refine h.bind h.connect fun got => ?_
  cases got with
  | error failure => exact h.bind (h.note _) fun _ => h.pure _
  | ok _ =>
      refine h.bind (h.inSession h.livenessInSession) fun _ => ?_
      exact h.bind (h.note _) fun _ => h.pure _

theorem readiness : P e.readiness := by
  refine h.bind h.connect fun got => ?_
  cases got with
  | error failure => exact h.bind (h.note _) fun _ => h.pure _
  | ok _ =>
      refine h.bind (h.inSession h.readinessInSession) fun _ => ?_
      exact h.bind (h.note _) fun _ => h.pure _

end Enclosed

end BrokerWatch.Health
