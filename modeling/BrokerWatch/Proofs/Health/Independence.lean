import BrokerWatch.Proofs.Health.Courses

/-!
# What an evaluation cannot tell apart

A course of calls sees the cluster's replies and whether its caller loses patience; it never looks
at what was seen or logged before it. So two worlds that differ in nothing else give the same
report. To a caller who waits the time makes no difference either, and the report depends on the
cluster alone.
-/

namespace BrokerWatch.Health

open Admin Cluster

variable {α β : Type} {R : World → World → Prop}

/-- A relation between worlds that no course of calls can tell apart. -/
structure Hidden (R : World → World → Prop) : Prop where
  cluster_eq : ∀ {w v}, R w v → v.cluster = w.cluster
  recorded : ∀ {w v}, R w v → ∀ events, R (w.record events) (v.record events)
  replied : ∀ {w v}, R w v → ∀ cluster : Behaviour, R { w with cluster } { v with cluster }
  noted : ∀ {w v}, R w v → ∀ line, R (w.noted line) (v.noted line)
  waited : ∀ {w v}, R w v → ∀ span,
    (wait span v).1 = (wait span w).1 ∧ R (wait span w).2 (wait span v).2

/-- A course has the same result in related worlds and leaves related worlds behind. -/
def Keeps (R : World → World → Prop) (course : Eval α) : Prop :=
  ∀ w v, R w v → (course v).1 = (course w).1 ∧ R (course w).2 (course v).2

namespace Keeps

theorem pure (a : α) : Keeps R (Pure.pure a : Eval α) :=
  fun _ _ h => ⟨rfl, h⟩

theorem bind {course : Eval α} {next : α → Eval β} (h : Keeps R course)
    (hnext : ∀ a, Keeps R (next a)) : Keeps R (course >>= next) := by
  intro w v hR
  obtain ⟨hsame, hleft⟩ := h w v hR
  rcases hw : course w with ⟨result, w'⟩
  rcases hv : course v with ⟨result', v'⟩
  rw [hw, hv] at hsame hleft
  obtain rfl : result' = result := hsame
  cases result' with
  | none =>
      rw [bind_abandoned hw, bind_abandoned hv]
      exact ⟨rfl, hleft⟩
  | some a =>
      rw [bind_run hw, bind_run hv]
      exact hnext a _ _ hleft

end Keeps

namespace Hidden

variable (h : Hidden R)
include h

theorem note (line : Logging.Record) : Keeps R (Health.note line) :=
  fun _ _ hR => ⟨rfl, h.noted hR line⟩

/-- A call takes its reply, and then it waits. -/
theorem call {take : Eval (Reply α)} {event : Event} (htake : Takes take event)
    (timeout : Duration) (operation : String) : Keeps R (take >>= bounded timeout operation) := by
  obtain ⟨reply, rest, hrun⟩ := htake
  refine Keeps.bind (fun w v hR => ?_) fun reply => ?_
  · rw [hrun, hrun, h.cluster_eq hR]
    exact ⟨rfl, h.replied (h.recorded hR [event]) _⟩
  · exact Keeps.bind (fun w v hR => h.waited hR _) fun _ => Keeps.pure _

theorem connect (timeout : Duration) : Keeps R (connect timeout) := by
  rw [Health.connect, ← bind_assoc]
  refine (h.call takes_connect timeout _).bind fun got => ?_
  cases got with
  | error failure => exact Keeps.pure _
  | ok _ => exact (h.note _).bind fun _ => Keeps.pure _

theorem inSession {body : Eval α} (hbody : Keeps R body) : Keeps R (inSession body) := by
  intro w v hR
  obtain ⟨hsame, hleft⟩ := hbody w v hR
  rcases hw : body w with ⟨result, w'⟩
  rcases hv : body v with ⟨result', v'⟩
  rw [hw, hv] at hsame hleft
  obtain rfl : result' = result := hsame
  simp only [Health.inSession, hw, hv]
  exact ⟨trivial, h.noted (h.recorded hleft _) _⟩

theorem enclosed (e : Evaluator) : Enclosed e (fun course => Keeps R course) where
  pure := Keeps.pure
  bind := Keeps.bind
  note := h.note
  fetchMetadata := h.call takes_metadata e.timeout _
  describeLogDirs := h.call (takes_logDirs _) e.timeout _
  connect := h.connect e.timeout
  inSession := h.inSession

end Hidden

/-! ### What was seen and logged before -/

/-- A world with nothing seen or logged in it. -/
def World.bare (w : World) : World :=
  { w with trace := [], log := [] }

/-- The second world is the first behind what was seen and logged in `before`. -/
def World.Behind (before w v : World) : Prop :=
  v = { w with trace := before.trace ++ w.trace, log := before.log ++ w.log }

theorem World.behind_bare (w : World) : w.Behind w.bare w := by
  simp [World.Behind, World.bare]

theorem Hidden.behind (before : World) : Hidden before.Behind where
  cluster_eq := by
    rintro w _ rfl
    rfl
  recorded := by
    rintro w _ rfl events
    simp [World.Behind, World.record]
  replied := by
    rintro w _ rfl cluster
    rfl
  noted := by
    rintro w _ rfl line
    simp [World.Behind, World.noted]
  waited := by
    rintro w _ rfl span
    have hpatience : ({ w with trace := before.trace ++ w.trace, log := before.log ++ w.log } :
        World).gaveUp span = w.gaveUp span := rfl
    rw [wait, wait, hpatience]
    cases w.gaveUp span <;> exact ⟨rfl, rfl⟩

/-! ### The time -/

/-- Two worlds whose callers wait, with the same cluster and the same events seen. -/
structure World.Alike (w v : World) : Prop where
  cluster_eq : v.cluster = w.cluster
  events_eq : v.events = w.events
  patient : w.patience = none ∧ v.patience = none

theorem Hidden.alike : Hidden World.Alike where
  cluster_eq := World.Alike.cluster_eq
  recorded := by
    intro w v h events
    refine ⟨h.cluster_eq, ?_, h.patient⟩
    rw [World.events_record, World.events_record, h.events_eq]
  replied := fun h _ => ⟨rfl, h.events_eq, h.patient⟩
  noted := fun h _ => ⟨h.cluster_eq, h.events_eq, h.patient⟩
  waited := by
    intro w v h span
    rw [wait, wait, World.gaveUp_of_patient h.patient.1, World.gaveUp_of_patient h.patient.2]
    exact ⟨rfl, h.cluster_eq, h.events_eq, h.patient⟩

end BrokerWatch.Health
