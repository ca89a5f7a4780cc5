import BrokerWatch.Proofs.Health.Readiness

/-!
# The course of a liveness evaluation

A liveness evaluation opens a session and looks at one snapshot in it. Its report is told from what
these two calls come to, as that of readiness is from its five.
-/

namespace BrokerWatch.Health

open Admin Cluster

namespace Gathered

def livenessHindrance (g : Gathered) (id : Int32) : Option String :=
  match g.session, g.registration with
  | .error text, _ => some (obstacle "failed to create admin client" text)
  | .ok _, .error text => some (obstacle "failed to fetch metadata" text)
  | .ok _, .ok m => if m.hasBroker id then none else some "broker not found in cluster metadata"

def liveness (g : Gathered) (id : Int32) : Liveness where
  status := if (g.livenessHindrance id).isNone then .healthy else .unhealthy
  brokerId := id
  brokerFound := (g.livenessHindrance id).isNone
  error := g.livenessHindrance id

section Hindered

variable {g : Gathered} {id : Int32} {text : String} {u : Unit} {m : Metadata}

theorem livenessHindrance_of_session (h : g.session = .error text) :
    g.livenessHindrance id = some (obstacle "failed to create admin client" text) := by
  rw [livenessHindrance, h]

theorem livenessHindrance_of_registration (hsession : g.session = .ok u)
    (h : g.registration = .error text) :
    g.livenessHindrance id = some (obstacle "failed to fetch metadata" text) := by
  rw [livenessHindrance, hsession, h]

theorem livenessHindrance_of_missing (hsession : g.session = .ok u) (h : g.registration = .ok m)
    (hbroker : m.hasBroker id = false) :
    g.livenessHindrance id = some "broker not found in cluster metadata" := by
  simp [livenessHindrance, hsession, h, hbroker]

theorem livenessHindrance_of_found (hsession : g.session = .ok u) (h : g.registration = .ok m)
    (hbroker : m.hasBroker id = true) : g.livenessHindrance id = none := by
  simp [livenessHindrance, hsession, h, hbroker]

theorem liveness_of_hindered (h : g.livenessHindrance id = some text) :
    g.liveness id = { brokerId := id, error := some text } := by
  rw [liveness, h]
  rfl

theorem liveness_of_not_hindered (h : g.livenessHindrance id = none) :
    g.liveness id = { brokerId := id, brokerFound := true, status := .healthy } := by
  rw [liveness, h]
  rfl

end Hindered

end Gathered

namespace Evaluator

variable (e : Evaluator) {w : World} (hw : w.patience = none) {g : Gathered}
include hw

/-- In an open session the report depends on the snapshot alone. -/
theorem livenessInSession_run (hsession : g.session = .ok ())
    (hreply : (w.snapshotReply 0).within e.timeout = g.registration) :
    ∃ w', e.livenessInSession w = (some (g.liveness e.brokerId), w') := by
  cases hg : g.registration with
  | error text =>
      have hcheck : e.registered w = _ := onSnapshot_error e hw _ (hreply.trans hg)
      have hhindered : g.livenessHindrance e.brokerId = _ :=
        Gathered.livenessHindrance_of_registration hsession hg
      rw [Gathered.liveness_of_hindered hhindered, livenessInSession, bind_run hcheck]
      exact ⟨_, rfl⟩
  | ok snapshot =>
      have hcheck : e.registered w = _ := onSnapshot_ok e hw _ (hreply.trans hg)
      cases hbroker : snapshot.hasBroker e.brokerId with
      | true =>
          have hfree := Gathered.livenessHindrance_of_found hsession hg hbroker
          rw [hbroker] at hcheck
          rw [Gathered.liveness_of_not_hindered hfree, livenessInSession, bind_run hcheck]
          exact ⟨_, rfl⟩
      | false =>
          have hhindered := Gathered.livenessHindrance_of_missing hsession hg hbroker
          rw [hbroker] at hcheck
          rw [Gathered.liveness_of_hindered hhindered, livenessInSession, bind_run hcheck]
          exact ⟨_, rfl⟩

/-- A caller who waits gets the report that the two calls give. -/
theorem liveness_run :
    ∃ w', e.liveness w = (some ((w.gathered e.timeout).liveness e.brokerId), w') := by
  obtain ⟨lines, hconnect⟩ := connect_run e.timeout (World.gaveUp_of_patient hw _)
  rw [outcome_eq] at hconnect
  cases hg : w.connectReply.within e.timeout with
  | error text =>
      have hsession : (w.gathered e.timeout).session = .error text := hg
      have hhindered : (w.gathered e.timeout).livenessHindrance e.brokerId = _ :=
        Gathered.livenessHindrance_of_session hsession
      rw [hg] at hconnect
      rw [Gathered.liveness_of_hindered hhindered, liveness, bind_run hconnect]
      exact ⟨_, rfl⟩
  | ok _ =>
      rw [hg] at hconnect
      obtain ⟨w₁, hbody⟩ := livenessInSession_run (w := (w.afterConnect e.timeout).withLog lines)
        (g := w.gathered e.timeout) e hw hg rfl
      exact ⟨_, (bind_run hconnect).trans (bind_run (inSession_run hbody))⟩

end Evaluator

end BrokerWatch.Health
