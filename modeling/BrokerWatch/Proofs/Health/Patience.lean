import BrokerWatch.Proofs.Health.Courses
import BrokerWatch.Proofs.Health.Liveness

/-!
# Patience decides whether there is a report, not which

A caller who may lose patience either gets no report or the one that a caller gets who waits. A
course that ends with a value is compared here with the same course for a caller who waits, in a
world that has the same cluster and the same time; so every report is one that the replies give.
-/

namespace BrokerWatch.Health

open Admin Cluster

variable {α β : Type}

/-- Two worlds at the same time and with the same cluster. In the second the caller waits. -/
structure World.Waits (w v : World) : Prop where
  cluster_eq : v.cluster = w.cluster
  now_eq : v.now = w.now
  patient : v.patience = none

/-- A course that ends with a value ends with the same one for a caller who waits. -/
def Steady (course : Eval α) : Prop :=
  ∀ (w v w' : World) (a : α), w.Waits v → course w = (some a, w') →
    ∃ v', course v = (some a, v') ∧ w'.Waits v'

namespace Steady

theorem pure (a : α) : Steady (Pure.pure a : Eval α) := by
  intro w v w' a' hwaits h
  cases h
  exact ⟨v, rfl, hwaits⟩

theorem bind {course : Eval α} {next : α → Eval β} (h : Steady course)
    (hnext : ∀ a, Steady (next a)) : Steady (course >>= next) := by
  intro w v w' b hwaits hrun
  rcases hfirst : course w with ⟨_ | a, w₁⟩
  · rw [bind_abandoned hfirst] at hrun
    cases hrun
  · rw [bind_run hfirst] at hrun
    obtain ⟨v₁, hfirst', hwaits₁⟩ := h _ _ _ _ hwaits hfirst
    obtain ⟨v', hrun', hwaits'⟩ := hnext a _ _ _ _ hwaits₁ hrun
    exact ⟨v', (bind_run hfirst').trans hrun', hwaits'⟩

theorem note (line : Logging.Record) : Steady (Health.note line) := by
  intro w v w' a hwaits h
  cases h
  exact ⟨v.noted line, rfl, ⟨hwaits.cluster_eq, hwaits.now_eq, hwaits.patient⟩⟩

theorem wait (span : Duration) : Steady (Health.wait span) := by
  intro w v w' a hwaits h
  refine ⟨{ v with now := v.now + span }, ?_, ?_⟩
  · rw [Health.wait, World.gaveUp_of_patient hwaits.patient]
  · rw [Health.wait] at h
    cases hleft : w.gaveUp span with
    | some moment =>
        -- The course was abandoned here, but `h` says that it ended with a value.
        rw [hleft] at h
        cases h
    | none =>
        rw [hleft] at h
        cases h
        exact ⟨hwaits.cluster_eq, congrArg (· + span) hwaits.now_eq, hwaits.patient⟩

theorem take {take : Eval (Reply α)} {event : Event} (htake : Takes take event) :
    Steady take := by
  intro w v w' a hwaits h
  obtain ⟨reply, rest, hrun⟩ := htake
  rw [hrun] at h
  cases h
  refine ⟨{ v.record [event] with cluster := rest v.cluster }, ?_, ?_⟩
  · rw [hrun, hwaits.cluster_eq]
  · exact ⟨congrArg rest hwaits.cluster_eq, hwaits.now_eq, hwaits.patient⟩

theorem bounded (timeout : Duration) (operation : String) (reply : Reply α) :
    Steady (bounded timeout operation reply) :=
  (wait _).bind fun _ => pure _

theorem closed (e : Evaluator) : Closed e Steady where
  pure := pure
  bind := bind
  note := note
  fetchMetadata := (take takes_metadata).bind (bounded _ _)
  describeLogDirs := (take (takes_logDirs _)).bind (bounded _ _)

theorem connect (timeout : Duration) : Steady (connect timeout) := by
  refine (take takes_connect).bind fun reply => (bounded _ _ reply).bind fun got => ?_
  cases got with
  | error failure => exact pure _
  | ok u => exact (note _).bind fun _ => pure _

theorem inSession {body : Eval α} (h : Steady body) : Steady (inSession body) := by
  intro w v w' a hwaits hrun
  rcases hbody : body w with ⟨_ | b, w₁⟩
  · simp only [Health.inSession, hbody] at hrun
    cases hrun
  · obtain ⟨v₁, hbody', hwaits₁⟩ := h _ _ _ _ hwaits hbody
    rw [Evaluator.inSession_run hbody] at hrun
    cases hrun
    exact ⟨_, Evaluator.inSession_run hbody', ⟨hwaits₁.cluster_eq, hwaits₁.now_eq, hwaits₁.patient⟩⟩

theorem enclosed (e : Evaluator) : Enclosed e Steady where
  toClosed := closed e
  connect := connect e.timeout
  inSession := inSession

theorem eq_of_waits {course : Eval α} (h : Steady course) {w v : World} {a b : α}
    (hwaits : w.Waits v) (hv : (course v).1 = some b) (ha : a ∈ (course w).1) : a = b := by
  obtain ⟨v', hv', -⟩ := h _ _ _ _ hwaits (Prod.ext ha rfl)
  rw [hv'] at hv
  exact Option.some.inj hv

end Steady

theorem World.waits_beginning (w : World) : w.Waits (w.beginning none) :=
  ⟨rfl, rfl, rfl⟩

namespace Evaluator

variable {e : Evaluator} {w : World}

theorem liveness_of_patient (hw : w.patience = none) :
    (e.liveness w).1 = some ((w.gathered e.timeout).liveness e.brokerId) := by
  obtain ⟨w', hrun⟩ := liveness_run e hw
  rw [hrun]

/-- What was seen before an evaluation has no part in its report. -/
theorem readiness_of_patient (hw : w.patience = none) :
    (e.readiness w).1 = some ((w.gathered e.timeout).readiness e.brokerId) := by
  obtain ⟨w', hrun, -⟩ := readiness_run e (w := w.beginning none) rfl rfl
  have hwaits : (w.beginning none).Waits w := ⟨rfl, rfl, hw⟩
  obtain ⟨v', hsame, -⟩ := (Steady.enclosed e).readiness _ _ _ _ hwaits hrun
  rw [hsame]
  rfl

theorem eq_of_mem_liveness {r : Liveness} (h : r ∈ (e.liveness w).1) :
    r = (w.gathered e.timeout).liveness e.brokerId :=
  (Steady.enclosed e).liveness.eq_of_waits w.waits_beginning (liveness_of_patient rfl) h

theorem eq_of_mem_readiness {r : Readiness} (h : r ∈ (e.readiness w).1) :
    r = (w.gathered e.timeout).readiness e.brokerId :=
  (Steady.enclosed e).readiness.eq_of_waits w.waits_beginning (readiness_of_patient rfl) h

end Evaluator

end BrokerWatch.Health
