import BrokerWatch.Proofs.Health.Patience

/-!
# Reports agree with themselves

The status, the failure text and the findings of a report are written at different places. Each of
them is told here by which stages of the course are passed, and so they say the same: a broker is
reported healthy exactly if the report has no failure text, and exactly if the last finding is good.
-/

namespace BrokerWatch.Health

open Admin Cluster

/-! ### What a report has to say -/

/-- The status of a report, its failure text and its verdict say the same. -/
structure Told (status : Status) (error : Option String) (verdict : Verdict) : Prop where
  healthy_iff : status = .healthy ↔ error = none
  verdict_iff : verdict.healthy = true ↔ error = none
  message_iff : verdict.message = "" ↔ error = none
  message_eq : ∀ text ∈ error, text ≠ "" ∧ verdict.message = text

structure Liveness.Coherent (r : Liveness) : Prop where
  told : Told r.status r.error r.verdict
  found_iff : r.brokerFound = true ↔ r.error = none

structure Readiness.Coherent (r : Readiness) : Prop where
  told : Told r.status r.error r.verdict
  logDirs_iff : r.logDirsHealthy = true ↔ r.error = none
  findings_iff : (r.brokerRegistered = true ∧ r.controllerElected = true ∧ r.underReplicated = 0 ∧
    r.logDirsHealthy = true) ↔ r.error = none
  registered_of_elected : r.controllerElected = true → r.brokerRegistered = true
  of_lagging : 0 < r.underReplicated → r.controllerElected = true ∧ r.logDirsHealthy = false

/-- A report is told by what keeps it from being healthy, provided that is put in words. -/
theorem Told.of_hindrance {hindrance : Option String} (h : hindrance ≠ some "") :
    Told (if hindrance.isNone then .healthy else .unhealthy) hindrance (.ofError hindrance) := by
  cases hindrance with
  | none => exact ⟨by simp, by simp [Verdict.ofError], by simp [Verdict.ofError], by simp⟩
  | some text =>
      have htext : text ≠ "" := fun he => h (congrArg some he)
      exact ⟨by simp, by simp [Verdict.ofError], by simp [Verdict.ofError, htext],
        by simp [Verdict.ofError, htext]⟩

/-! ### What keeps a report from being healthy is put in words -/

/-- What stopped an operation is told by a text that starts with the operation. -/
theorem obstacle_ne {operation text : String} (h : ¬ operation.toList <+: text.toList)
    (reason : String) : obstacle operation reason ≠ text := by
  rintro rfl
  refine h ⟨(": " ++ reason).toList, ?_⟩
  rw [← String.toList_append, ← String.append_assoc]
  rfl

/-- A stage is not kept from being passed in words that its call and its problem do not have. -/
theorem Stage.hindrance_ne {α : Type} {call : Event} {operation text problem : String}
    {got : Except String α} {passes : α → Bool} (hcall : ¬ operation.toList <+: text.toList)
    (hproblem : problem = text → ∀ a, passes a = true) :
    (Stage.of call operation got passes problem).hindrance ≠ some text := by
  cases got with
  | error reason => simpa [Stage.of] using obstacle_ne hcall reason
  | ok a =>
      by_cases hpasses : passes a = true
      · simp [Stage.of, hpasses]
      · have hother : problem ≠ text := fun heq => hpasses (hproblem heq a)
        simpa [Stage.of, hpasses] using hother

namespace Gathered

variable {g : Gathered} {id : Int32}

theorem hindrance_ne_empty : g.hindrance id ≠ some "" := by
  have hstages : ∀ s ∈ g.stages id, s.hindrance ≠ some "" := by
    simp only [stages, List.forall_mem_cons, List.not_mem_nil, false_implies, implies_true,
      and_true]
    refine ⟨?_, ?_, ?_, ?_, ?_⟩ <;> exact Stage.hindrance_ne (by decide) (by simp)
  rw [hindrance_eq_findSome?]
  intro h
  obtain ⟨s, hs, hempty⟩ := List.exists_of_findSome?_eq_some h
  exact hstages s hs hempty

theorem livenessHindrance_ne_empty : g.livenessHindrance id ≠ some "" := by
  rw [livenessHindrance]
  split
  · simpa using obstacle_ne (by decide) _
  · simpa using obstacle_ne (by decide) _
  · split <;> simp

end Gathered

/-! ### What the stages that are passed show -/

/-- A stage is reached exactly if those before it are passed. -/
theorem Stage.lt_length_runThrough_iff {stages : List Stage} {n : Nat} (hn : n < stages.length) :
    n < (runThrough stages).length ↔ ∀ s ∈ stages.take n, s.passed := by
  induction stages generalizing n with
  | nil => cases hn
  | cons s stages ih =>
      cases n with
      | zero => cases hs : s.hindrance <;> simp [runThrough_of_passed, runThrough_of_hindrance, hs]
      | succ n =>
          rw [List.take_succ_cons, List.forall_mem_cons, passed]
          cases hs : s.hindrance with
          | none =>
              rw [runThrough_of_passed hs, List.length_cons, Nat.add_lt_add_iff_right,
                ih (Nat.lt_of_succ_lt_succ hn)]
              exact (and_iff_right rfl).symm
          | some text => simp [runThrough_of_hindrance hs]

namespace Gathered

variable {g : Gathered} {id : Int32} {n : Nat}

/-- The stages before a number are passed. -/
def Past (g : Gathered) (id : Int32) (n : Nat) : Prop :=
  ∀ s ∈ (g.stages id).take n, s.passed

theorem Past.of_le {m : Nat} (h : g.Past id n) (hle : m ≤ n) : g.Past id m :=
  fun s hs => h s (List.take_subset_take_left _ hle hs)

theorem seen_eq_some_iff {α β : Type} {got : Except String α} {look : α → β} {b : β} (hn : n < 5) :
    g.seen id n got look = some b ↔ g.Past id n ∧ ∃ a, got = .ok a ∧ look a = b := by
  have hreached : n < (g.course id).length ↔ g.Past id n := Stage.lt_length_runThrough_iff hn
  rw [← hreached, seen]
  cases got with
  | error text => simp [Except.map, Except.toOption]
  | ok a => simp [Except.map, Except.toOption]

/-- What a stage is passed by is seen in it exactly if it is passed as those before it are. -/
theorem seen_passing_iff {α : Type} {call : Event} {operation : String} {got : Except String α}
    {passes : α → Bool} {problem : String}
    (h : (g.stages id)[n]? = some (.of call operation got passes problem)) :
    (g.seen id n got passes).getD false = true ↔ g.Past id (n + 1) := by
  have hn : n < 5 := (List.getElem?_eq_some_iff.1 h).1
  have htrue : (g.seen id n got passes).getD false = true ↔
      g.seen id n got passes = some true := by
    cases g.seen id n got passes <;> simp
  rw [htrue, seen_eq_some_iff hn, Past, Past, List.take_add_one, h, Option.toList_some,
    List.forall_mem_append, List.forall_mem_singleton, Stage.passed_of]

theorem registered_iff : (g.readiness id).brokerRegistered = true ↔ g.Past id 2 :=
  seen_passing_iff rfl

theorem elected_iff : (g.readiness id).controllerElected = true ↔ g.Past id 3 :=
  seen_passing_iff rfl

theorem logDirsHealthy_iff : (g.readiness id).logDirsHealthy = true ↔ g.Past id 5 :=
  seen_passing_iff rfl

/-- A broker that lags ends the course in the stage that finds it out. -/
theorem of_lagging (h : 0 < (g.readiness id).underReplicated) : g.Past id 3 ∧ ¬ g.Past id 4 := by
  obtain ⟨count, hseen⟩ : ∃ count, g.seen id 3 g.replication (·.lagging id) = some count := by
    rw [← Option.isSome_iff_exists, ← Option.ne_none_iff_isSome]
    intro hnone
    rw [readiness, hnone] at h
    cases h
  have hcount : (g.readiness id).underReplicated = count := by
    rw [readiness, hseen, Option.getD_some]
  obtain ⟨hpast, m, hm, hlagging⟩ := (seen_eq_some_iff (by decide)).1 hseen
  -- The same snapshot would have to show a count above zero and, the stage being passed, zero.
  refine ⟨hpast, fun hfourth => ?_⟩
  obtain ⟨m', hm', hnone⟩ := (Stage.passed_of ..).1 (hfourth _ (List.mem_of_getElem? (i := 3) rfl))
  rw [hm] at hm'
  cases hm'
  have hzero : m.lagging id = 0 := by simpa using hnone
  omega

theorem error_eq_none_iff : (g.readiness id).error = none ↔ g.Past id 5 :=
  g.hindrance_eq_none_iff id

theorem coherent_readiness : (g.readiness id).Coherent where
  told := Told.of_hindrance hindrance_ne_empty
  logDirs_iff := logDirsHealthy_iff.trans error_eq_none_iff.symm
  findings_iff := by
    rw [error_eq_none_iff]
    -- The last finding alone decides; the others were good for it to be reached.
    refine ⟨fun h => logDirsHealthy_iff.1 h.2.2.2, fun h => ⟨?_, ?_, ?_, logDirsHealthy_iff.2 h⟩⟩
    · exact registered_iff.2 (h.of_le (by decide))
    · exact elected_iff.2 (h.of_le (by decide))
    · exact Nat.eq_zero_of_not_pos fun hlagging => (of_lagging hlagging).2 (h.of_le (by decide))
  registered_of_elected h := registered_iff.2 ((elected_iff.1 h).of_le (by decide))
  of_lagging h := by
    obtain ⟨hthird, hfourth⟩ := of_lagging h
    refine ⟨elected_iff.2 hthird, Bool.eq_false_iff.2 fun hlast => hfourth ?_⟩
    exact (logDirsHealthy_iff.1 hlast).of_le (by decide)

theorem coherent_liveness : (g.liveness id).Coherent where
  told := Told.of_hindrance livenessHindrance_ne_empty
  found_iff := Option.isNone_iff_eq_none

end Gathered

end BrokerWatch.Health
