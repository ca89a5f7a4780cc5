import BrokerWatch.Proofs.Health.Reports

/-!
# The two evaluations agree

Liveness and readiness look for the broker separately, each in words of its own. From the same reply
to the attempt to open a session and the same first snapshot they come to the same: a call that
comes to no value gives both the same text, a broker that is missing gives each its own, and where
liveness is content readiness goes on. The texts of calls start with their operation, so none of
them is taken for what was found.
-/

namespace BrokerWatch.Health

open Admin Cluster

namespace Gathered

variable {g g' : Gathered} {id : Int32}

/-! ### The first two stages -/

theorem past_two_iff : g.Past id 2 ↔
    (∃ u, g.session = .ok u) ∧ ∃ m, g.registration = .ok m ∧ m.hasBroker id = true := by
  simp only [Past, stages, List.take_succ_cons, List.take_zero, List.forall_mem_cons,
    Stage.passed_of, List.not_mem_nil, false_implies, implies_true, and_true]

theorem livenessHindrance_eq_none_iff : g.livenessHindrance id = none ↔ g.Past id 2 := by
  rw [past_two_iff, livenessHindrance]
  cases hsession : g.session with
  | error text => simp
  | ok u =>
      cases hregistration : g.registration with
      | error text => simp
      | ok m => simp

theorem found_iff : (g.liveness id).brokerFound = true ↔ g.Past id 2 :=
  Option.isNone_iff_eq_none.trans livenessHindrance_eq_none_iff

section FirstStages

variable {text : String} {u : Unit} {m : Metadata}

theorem hindrance_of_session (h : g.session = .error text) :
    g.hindrance id = some (obstacle "failed to create admin client" text) := by
  rw [hindrance_eq_findSome?, stages, List.findSome?_cons, h]
  rfl

theorem hindrance_of_registration (hsession : g.session = .ok u)
    (h : g.registration = .error text) :
    g.hindrance id = some (obstacle "failed to fetch metadata" text) := by
  rw [hindrance_eq_findSome?, stages, hsession, List.findSome?_cons, List.findSome?_cons, h]
  rfl

theorem hindrance_of_missing (hsession : g.session = .ok u) (h : g.registration = .ok m)
    (hbroker : m.hasBroker id = false) :
    g.hindrance id = some "broker not registered in cluster metadata" := by
  rw [hindrance_eq_findSome?, stages, hsession, List.findSome?_cons, List.findSome?_cons, h]
  simp [Stage.of, hbroker]

theorem hindrance_ne_of_past (h : g.Past id 2) :
    g.hindrance id ≠ some "broker not registered in cluster metadata" := by
  -- The later stages have other problems, and their calls speak of their operation first.
  have hlater : ∀ s ∈ (g.stages id).drop 2,
      s.hindrance ≠ some "broker not registered in cluster metadata" := by
    simp only [stages, List.drop_succ_cons, List.drop_zero, List.forall_mem_cons, List.not_mem_nil,
      false_implies, implies_true, and_true]
    refine ⟨?_, ?_, ?_⟩ <;> exact Stage.hindrance_ne (by decide) (by simp)
  rw [hindrance_eq_findSome?]
  intro hsome
  obtain ⟨s, hs, hhindrance⟩ := List.exists_of_findSome?_eq_some hsome
  rw [← List.take_append_drop 2 (g.stages id), List.mem_append] at hs
  rcases hs with hfirst | hs
  · have hnone : s.hindrance = none := Option.isNone_iff_eq_none.1 (h s hfirst)
    rw [hnone] at hhindrance
    cases hhindrance
  · exact hlater s hs hhindrance

end FirstStages

/-- The two evaluations are kept back by the same call, or each says in its own words that the
broker is missing, or liveness is content and readiness does not say so. -/
theorem hindrances (g : Gathered) (id : Int32) :
    (∃ text, text ≠ "broker not found in cluster metadata" ∧
      text ≠ "broker not registered in cluster metadata" ∧
      g.livenessHindrance id = some text ∧ g.hindrance id = some text) ∨
    (g.livenessHindrance id = some "broker not found in cluster metadata" ∧
      g.hindrance id = some "broker not registered in cluster metadata") ∨
    (g.livenessHindrance id = none ∧
      g.hindrance id ≠ some "broker not registered in cluster metadata") := by
  cases hsession : g.session with
  | error text =>
      exact .inl ⟨_, obstacle_ne (by decide) text, obstacle_ne (by decide) text,
        livenessHindrance_of_session hsession, hindrance_of_session hsession⟩
  | ok u =>
      cases hregistration : g.registration with
      | error text =>
          exact .inl ⟨_, obstacle_ne (by decide) text, obstacle_ne (by decide) text,
            livenessHindrance_of_registration hsession hregistration,
            hindrance_of_registration hsession hregistration⟩
      | ok m =>
          cases hbroker : m.hasBroker id with
          | false =>
              exact .inr (.inl ⟨livenessHindrance_of_missing hsession hregistration hbroker,
                hindrance_of_missing hsession hregistration hbroker⟩)
          | true =>
              have hfree := livenessHindrance_of_found hsession hregistration hbroker
              exact .inr (.inr ⟨hfree,
                hindrance_ne_of_past (livenessHindrance_eq_none_iff.1 hfree)⟩)

end Gathered

/-! ### The two reports -/

/-- A report on a broker being alive and one on it being ready that say the same of what both looked
at. -/
structure Agree (alive : Liveness) (ready : Readiness) : Prop where
  found_eq : ready.brokerRegistered = alive.brokerFound
  healthy_of_healthy : ready.status = .healthy → alive.status = .healthy
  missing_iff : alive.error = some "broker not found in cluster metadata" ↔
    ready.error = some "broker not registered in cluster metadata"
  /-- Any other failure text of the one is that of the other. -/
  error_eq : ∀ text, alive.error = some text → text ≠ "broker not found in cluster metadata" →
    ready.error = some text

namespace Gathered

theorem agree (g : Gathered) (id : Int32) : Agree (g.liveness id) (g.readiness id) := by
  have halive : (g.liveness id).error = g.livenessHindrance id := rfl
  have hready : (g.readiness id).error = g.hindrance id := rfl
  refine ⟨Bool.eq_iff_iff.2 (registered_iff.trans found_iff.symm), fun h => ?_, ?_, ?_⟩
  · have hpast : g.Past id 5 := error_eq_none_iff.1 (coherent_readiness.told.healthy_iff.1 h)
    refine coherent_liveness.told.healthy_iff.2 ?_
    exact halive.trans (livenessHindrance_eq_none_iff.2 (hpast.of_le (by decide)))
  · rw [halive, hready]
    rcases g.hindrances id with ⟨text, hnotFound, hnotRegistered, h, h'⟩ | ⟨h, h'⟩ | ⟨h, h'⟩
    · rw [h, h', Option.some_inj, Option.some_inj]
      exact iff_of_false hnotFound hnotRegistered
    · exact iff_of_true h h'
    · exact iff_of_false (by simp [h]) h'
  · rw [halive, hready]
    intro text htext hne
    rcases g.hindrances id with ⟨other, -, -, h, h'⟩ | ⟨h, -⟩ | ⟨h, -⟩
    · rw [h', ← h, htext]
    · exact absurd (Option.some.inj (htext.symm.trans h)) hne
    · exact absurd (htext.symm.trans h) (by simp)

/-- A session that does not open gives both reports the same text. -/
theorem errors_of_session {g : Gathered} {text : String} (h : g.session = .error text)
    (id : Int32) :
    (g.liveness id).error = some (obstacle "failed to create admin client" text) ∧
      (g.readiness id).error = (g.liveness id).error :=
  have halive := livenessHindrance_of_session h
  ⟨halive, (hindrance_of_session h).trans halive.symm⟩

/-- A first snapshot that does not come gives both reports the same text. -/
theorem errors_of_registration {g : Gathered} {u : Unit} {text : String}
    (hsession : g.session = .ok u) (h : g.registration = .error text) (id : Int32) :
    (g.liveness id).error = some (obstacle "failed to fetch metadata" text) ∧
      (g.readiness id).error = (g.liveness id).error :=
  have halive := livenessHindrance_of_registration hsession h
  ⟨halive, (hindrance_of_registration hsession h).trans halive.symm⟩

theorem liveness_congr {g g' : Gathered} (hsession : g.session = g'.session)
    (hregistration : g.registration = g'.registration) (id : Int32) :
    g.liveness id = g'.liveness id := by
  have hhindrance : g.livenessHindrance id = g'.livenessHindrance id := by
    rw [livenessHindrance, hsession, hregistration, livenessHindrance]
  rw [liveness, hhindrance, liveness]

end Gathered

/-- Two evaluations of a broker agree that get the same reply to the attempt to open a session and
the same first reply to the question for a snapshot, whatever else differs in the worlds they see:
and if one of these two calls comes to no value, then both reports say why in the same words. -/
theorem liveness_readiness_agree (e : Evaluator) {w w' : World}
    (hconnect : w.connectReply = w'.connectReply)
    (hsnapshot : w.snapshotReply 0 = w'.snapshotReply 0) :
    (w.patience = none → w'.patience = none →
      (e.liveness w).1.isSome ∧ (e.readiness w').1.isSome) ∧
    ∀ alive ∈ (e.liveness w).1, ∀ ready ∈ (e.readiness w').1,
      Agree alive ready ∧
      (∀ text, w.connectReply.within e.timeout = .error text →
        alive.error = some (obstacle "failed to create admin client" text) ∧
        ready.error = alive.error) ∧
      (∀ text, w.connectReply.within e.timeout = .ok () →
        (w.snapshotReply 0).within e.timeout = .error text →
        alive.error = some (obstacle "failed to fetch metadata" text) ∧
        ready.error = alive.error) := by
  refine ⟨fun hw hw' => ⟨?_, ?_⟩, fun alive halive ready hready => ?_⟩
  · rw [Evaluator.liveness_of_patient hw, Option.isSome_some]
  · rw [Evaluator.readiness_of_patient hw', Option.isSome_some]
  have hsession : (w.gathered e.timeout).session = (w'.gathered e.timeout).session :=
    congrArg (·.within e.timeout) hconnect
  have hregistration : (w.gathered e.timeout).registration = (w'.gathered e.timeout).registration :=
    congrArg (·.within e.timeout) hsnapshot
  rw [Evaluator.eq_of_mem_liveness halive, Evaluator.eq_of_mem_readiness hready,
    Gathered.liveness_congr hsession hregistration]
  refine ⟨Gathered.agree _ _, fun text htext => ?_, fun text hopened htext => ?_⟩
  · exact Gathered.errors_of_session (hsession.symm.trans htext) _
  · exact Gathered.errors_of_registration (hsession.symm.trans hopened)
      (hregistration.symm.trans htext) _

theorem liveness_readiness_agree_unanswered :
    let e : Evaluator := ⟨3, .ofSeconds 1⟩
    let w : World := { cluster := { metadata := [.never] } }
    let w' : World := { cluster := { metadata := [.never, .now (.error noReply)] } }
    w.connectReply = w'.connectReply ∧ w.snapshotReply 0 = w'.snapshotReply 0 ∧
    (e.liveness w).1.isSome ∧ (e.readiness w').1.isSome ∧
    ∀ alive ∈ (e.liveness w).1, ∀ ready ∈ (e.readiness w').1,
      Agree alive ready ∧ alive.error = ready.error ∧
      ready.error = some "failed to fetch metadata: deadline exceeded after 1s" := by
  intro e w w'
  have hconnect : w.connectReply = w'.connectReply := rfl
  have hsnapshot : w.snapshotReply 0 = w'.snapshotReply 0 := rfl
  obtain ⟨hsome, hreports⟩ := liveness_readiness_agree e hconnect hsnapshot
  obtain ⟨halive, hready⟩ := hsome rfl rfl
  refine ⟨hconnect, hsnapshot, halive, hready, fun alive ha ready hr => ?_⟩
  obtain ⟨hagree, -, hblocked⟩ := hreports alive ha ready hr
  have hlate : "deadline exceeded after " ++ (Duration.ofSeconds 1).text =
      "deadline exceeded after 1s" := by decide
  obtain ⟨herror, hsame⟩ := hblocked _ rfl (congrArg Except.error hlate)
  have htext : obstacle "failed to fetch metadata" "deadline exceeded after 1s" =
      "failed to fetch metadata: deadline exceeded after 1s" := by decide
  rw [htext] at herror
  exact ⟨hagree, hsame.symm, hsame.trans herror⟩

end BrokerWatch.Health
