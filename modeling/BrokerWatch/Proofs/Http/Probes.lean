import BrokerWatch.Http.Service
import BrokerWatch.Proofs.Health.Reports

/-!
# Probes

A probe is a request for one of the two health places. It runs an evaluation, and the response is
told from the report: the status code from its status, the members of the body from all of it. Since
a report agrees with itself, so do the status code and the body.
-/

namespace BrokerWatch.Http

open Health

/-! ### Requests that reach a place -/

/-- The place that a request asks about, which it does by `GET` only. -/
def Request.asked? (r : Request) : Option Route :=
  if r.method = "GET" then (Target.path? r.target).bind Route.ofPath? else none

/-- A request that is well formed and asks for what is at a place. -/
structure Request.Gets (r : Request) (route : Route) : Prop where
  sound : r.fault? = none
  method_eq : r.method = "GET"
  leads : (Target.path? r.target).bind Route.ofPath? = some route

theorem Request.Gets.asked {r : Request} {route : Route} (h : r.Gets route) :
    r.asked? = some route := by
  rw [Request.asked?, if_pos h.method_eq, h.leads]

/-- What was asked for by `GET` is carried as it is. -/
theorem Response.carried_get (response : Response) : response.carried "GET" = response := by
  rw [Response.carried]
  exact fun _ _ h => absurd h (by decide)

namespace Service

variable (s : Service) {r : Request} {route : Route}

theorem handle_of_asked (h : r.asked? = some route) : s.handle r = s.answer route := by
  rw [Request.asked?, Option.ite_none_right_eq_some, Option.bind_eq_some_iff] at h
  obtain ⟨hmethod, path, hpath, hroute⟩ := h
  simp only [handle, hpath, hroute, if_pos hmethod]

theorem respond_of_gets (h : r.Gets route) : s.respond r = s.answer route := by
  rw [respond, h.sound, handle_of_asked s h.asked, h.method_eq]
  simp only [Response.carried_get, Option.map_id', bind_pure]

end Service

/-! ### Responses that carry a report -/

/-- The body of a response is a report, the status code says whether it is healthy, and there is a
failure text in the body exactly if the code says it is not. -/
structure Response.Carries (response : Response) (status : Status) (error : Option String)
    (report : Json) : Prop where
  body_eq : response.body = .json report
  ok_iff : response.status = 200 ↔ status = .healthy
  unavailable_iff : response.status = 503 ↔ status ≠ .healthy
  error_eq : report.member? "error" = error.map .string
  error_iff : (report.member? "error").isSome ↔ response.status = 503

theorem member?_error {members : List (String × Json)} (h : ∀ m ∈ members, m.1 ≠ "error")
    (error : Option String) :
    (Json.object (members ++ errorMember error)).member? "error" = error.map .string := by
  have hnone : members.find? (·.1 == "error") = none := by simpa using h
  rw [Json.member?, List.find?_append, hnone]
  cases error <;> rfl

theorem Response.carries_of_told {status : Status} {error : Option String} {verdict : Verdict}
    (h : Told status error verdict) {members : List (String × Json)}
    (hmembers : ∀ m ∈ members, m.1 ≠ "error") :
    (Response.ofJson (statusCode status) (.object (members ++ errorMember error))).Carries
      status error (.object (members ++ errorMember error)) := by
  have hunavailable : statusCode status = 503 ↔ status ≠ .healthy := by
    cases status <;> simp [statusCode]
  refine ⟨rfl, ?_, hunavailable, member?_error hmembers error, ?_⟩
  · cases status <;> simp [Response.ofJson, statusCode]
  · rw [member?_error hmembers, Option.isSome_map]
    refine Iff.trans ?_ hunavailable.symm
    rw [Ne, h.healthy_iff, ← Ne, Option.ne_none_iff_isSome]

theorem carries_liveness {r : Liveness} (h : r.Coherent) :
    (Response.ofJson (statusCode r.status) r.toJson).Carries r.status r.error r.toJson :=
  Response.carries_of_told h.told (by simp)

theorem carries_readiness {r : Readiness} (h : r.Coherent) :
    (Response.ofJson (statusCode r.status) r.toJson).Carries r.status r.error r.toJson :=
  Response.carries_of_told h.told (by simp)

/-! ### The answers to probes -/

/-- The world in which a probe is evaluated, the request being logged. -/
def State.probed (state : State) (message : String) : World :=
  state.world.noted (serverLine .debug [] message)

namespace Service

variable (s : Service) (state : State)

theorem answer_live_fst :
    (s.answer .live state).1 = (s.evaluator.liveness (state.probed "liveness requested")).1.map
      fun r => .ofJson (statusCode r.status) r.toJson :=
  rfl

theorem answer_ready_fst :
    (s.answer .ready state).1 = (s.evaluator.readiness (state.probed "readiness requested")).1.map
      fun r => .ofJson (statusCode r.status) r.toJson :=
  rfl

/-- Every report agrees with itself, whatever the cluster replies and whenever the caller loses
patience, and so does every response to a probe, which carries such a report. A caller who waits
gets a report, and a response. -/
theorem reports_coherent :
    (∀ r ∈ (s.evaluator.liveness state.world).1, r.Coherent) ∧
    (∀ r ∈ (s.evaluator.readiness state.world).1, r.Coherent) ∧
    (∀ request : Request, request.Gets .live →
      ∀ response ∈ (s.respond request state).1,
        ∃ r ∈ (s.evaluator.liveness (state.probed "liveness requested")).1,
          r.Coherent ∧ response.Carries r.status r.error r.toJson) ∧
    (∀ request : Request, request.Gets .ready →
      ∀ response ∈ (s.respond request state).1,
        ∃ r ∈ (s.evaluator.readiness (state.probed "readiness requested")).1,
          r.Coherent ∧ response.Carries r.status r.error r.toJson) ∧
    (state.world.patience = none →
      (s.evaluator.liveness state.world).1.isSome ∧ (s.evaluator.readiness state.world).1.isSome ∧
      ∀ request : Request, request.Gets .live ∨ request.Gets .ready →
        (s.respond request state).1.isSome) := by
  have hlive : ∀ w, ∀ r ∈ (s.evaluator.liveness w).1, r.Coherent := fun w r h =>
    Evaluator.eq_of_mem_liveness h ▸ Gathered.coherent_liveness
  have hready : ∀ w, ∀ r ∈ (s.evaluator.readiness w).1, r.Coherent := fun w r h =>
    Evaluator.eq_of_mem_readiness h ▸ Gathered.coherent_readiness
  refine ⟨hlive _, hready _, ?_, ?_, ?_⟩
  · intro request hgets response hresponse
    rw [respond_of_gets s hgets, answer_live_fst] at hresponse
    obtain ⟨r, hr, rfl⟩ := Option.map_eq_some_iff.1 hresponse
    exact ⟨r, hr, hlive _ r hr, carries_liveness (hlive _ r hr)⟩
  · intro request hgets response hresponse
    rw [respond_of_gets s hgets, answer_ready_fst] at hresponse
    obtain ⟨r, hr, rfl⟩ := Option.map_eq_some_iff.1 hresponse
    exact ⟨r, hr, hready _ r hr, carries_readiness (hready _ r hr)⟩
  · intro hpatient
    refine ⟨?_, ?_, ?_⟩
    · rw [Evaluator.liveness_of_patient hpatient, Option.isSome_some]
    · rw [Evaluator.readiness_of_patient hpatient, Option.isSome_some]
    rintro request (hgets | hgets)
    · rw [respond_of_gets s hgets, answer_live_fst, Option.isSome_map,
        Evaluator.liveness_of_patient (w := state.probed _) hpatient, Option.isSome_some]
    · rw [respond_of_gets s hgets, answer_ready_fst, Option.isSome_map,
        Evaluator.readiness_of_patient (w := state.probed _) hpatient, Option.isSome_some]

/-- A cluster that never answers makes a probe see why the broker is not ready. -/
theorem reports_coherent_unanswered :
    let s : Service := ⟨⟨3, .ofSeconds 1⟩, {}⟩
    let state : State := { world := { cluster := { metadata := [.never] } } }
    let request : Request := ⟨"GET", "/health/ready?verbose"⟩
    request.Gets .ready ∧ ∃ response ∈ (s.respond request state).1, response.status = 503 ∧
      ∃ r : Readiness, response.body = .json r.toJson ∧
        r.error = some "failed to fetch metadata: deadline exceeded after 1s" := by
  intro s state request
  have hsize : "/health/ready?verbose".utf8ByteSize = 21 := by decide
  have hgets : request.Gets .ready := by
    refine ⟨?_, rfl, by decide⟩
    simp [request, Request.fault?, Request.isSendable, Request.isMethodCharacter,
      Request.longestTarget, hsize]
  obtain ⟨-, -, -, hready, hpatient⟩ := reports_coherent s state
  obtain ⟨response, hresponse⟩ :=
    Option.isSome_iff_exists.1 ((hpatient rfl).2.2 request (.inr hgets))
  obtain ⟨r, hr, hcoherent, hcarries⟩ := hready request hgets response hresponse
  have hrun : (s.evaluator.readiness (state.probed "readiness requested")).1.map (·.error) =
      some (some "failed to fetch metadata: deadline exceeded after 1s") := by
    decide +kernel
  have herror : r.error = some "failed to fetch metadata: deadline exceeded after 1s" := by
    rw [hr] at hrun
    exact Option.some.inj hrun
  have hunhealthy : r.status ≠ .healthy := by
    rw [Ne, hcoherent.told.healthy_iff, herror]
    exact Option.some_ne_none _
  exact ⟨hgets, response, hresponse, hcarries.unavailable_iff.2 hunhealthy, r, hcarries.body_eq,
    herror⟩

end Service

end BrokerWatch.Http
