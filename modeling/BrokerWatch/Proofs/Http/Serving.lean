import BrokerWatch.Proofs.Health.Independence
import BrokerWatch.Proofs.Health.Sessions
import BrokerWatch.Proofs.Http.Probes
import Mathlib.Logic.Function.Iterate

/-!
# Requests one after the other

The requests to a service share the cluster and the memory, but each kind of request touches only
its own. A probe runs one evaluation and leaves memory alone; a request for the metrics takes one
reading at most and leaves the cluster alone; every other request leaves everything as it is. So
what the cluster sees of a sequence of requests is what it sees of the probes among them, and a
probe is answered as if only the probes before it had been sent.
-/

namespace BrokerWatch.Http

open Admin Health

/-! ### What a request asks for -/

def Route.probe? : Route → Option Probe
  | live => some .liveness
  | ready => some .readiness
  | metrics | about => none

def Request.probe? (r : Request) : Option Probe :=
  r.asked?.bind Route.probe?

theorem Request.probe?_eq_some_iff {r : Request} {probe : Probe} :
    r.probe? = some probe ↔ (probe = .liveness ∧ r.asked? = some .live) ∨
      (probe = .readiness ∧ r.asked? = some .ready) := by
  rw [Request.probe?, Option.bind_eq_some_iff]
  constructor
  · intro h
    obtain ⟨route, hasked, hroute⟩ := h
    cases route <;> cases hroute
    · exact .inl ⟨rfl, hasked⟩
    · exact .inr ⟨rfl, hasked⟩
  · rintro (⟨rfl, hasked⟩ | ⟨rfl, hasked⟩)
    · exact ⟨_, hasked, rfl⟩
    · exact ⟨_, hasked, rfl⟩

theorem Request.asked?_of_not_probe {r : Request} (h : r.probe? = none) :
    r.asked? = some .metrics ∨ r.asked? = some .about ∨ r.asked? = none := by
  cases hasked : r.asked? with
  | none => exact .inr (.inr rfl)
  | some route =>
      rw [Request.probe?, hasked, Option.bind_some] at h
      cases route with
      | live | ready => cases h
      | metrics => exact .inl rfl
      | about => exact .inr (.inl rfl)

/-! ### Evaluations by themselves -/

/-- An evaluation with the response that tells its report. There is none if the caller lost
patience. -/
def told (e : Evaluator) : Probe → World → Option Response × World
  | .liveness, w =>
    ((e.liveness w).1.map fun r => .ofJson (statusCode r.status) r.toJson, (e.liveness w).2)
  | .readiness, w =>
    ((e.readiness w).1.map fun r => .ofJson (statusCode r.status) r.toJson, (e.readiness w).2)

structure Answer where
  response : Option Response
  events : List Event

/-- The answer to a probe and what is seen of it, in a world in which nothing was seen before. -/
def Answer.told (e : Evaluator) (probe : Probe) (w : World) : Answer :=
  ⟨(Http.told e probe w).1, (Http.told e probe w).2.events⟩

/-- What the answers to probes would be if nothing else were sent, each in what the ones before it
have left of the cluster. -/
def alone (e : Evaluator) : List Probe → World → List Answer
  | [], _ => []
  | probe :: probes, w => .told e probe w.bare :: alone e probes (told e probe w.bare).2

/-- The world that probes leave if nothing else is sent. -/
def leftBy (e : Evaluator) (probes : List Probe) (w : World) : World :=
  probes.foldl (fun w probe => (told e probe w.bare).2) w

section Told

variable (e : Evaluator) (probe : Probe) {w v : World}

theorem told_of_hidden {R : World → World → Prop} (hidden : Hidden R) (h : R w v) :
    (told e probe v).1 = (told e probe w).1 ∧ R (told e probe w).2 (told e probe v).2 := by
  cases probe with
  | liveness =>
      obtain ⟨hsame, hleft⟩ := (hidden.enclosed e).liveness w v h
      exact ⟨congrArg (Option.map _) hsame, hleft⟩
  | readiness =>
      obtain ⟨hsame, hleft⟩ := (hidden.enclosed e).readiness w v h
      exact ⟨congrArg (Option.map _) hsame, hleft⟩

/-- What was seen and logged before an evaluation stays in front of what is seen and logged in it.
-/
theorem told_bare (w : World) :
    (told e probe w).1 = (told e probe w.bare).1 ∧
      (told e probe w).2.events = w.events ++ (told e probe w.bare).2.events ∧
      (told e probe w).2.bare = (told e probe w.bare).2.bare := by
  obtain ⟨hsame, hleft⟩ := told_of_hidden e probe (Hidden.behind w) w.behind_bare
  rw [World.Behind] at hleft
  rw [hleft]
  exact ⟨hsame, by simp [World.events], rfl⟩

theorem count_connect_told (h : w.events = []) :
    (told e probe w).2.events.count .connect = 1 := by
  cases probe with
  | liveness => exact (e.liveness_seen h).count_eq.1
  | readiness => exact (e.readiness_seen h).count_eq.1

theorem told_isSome (h : w.patience = none) : (told e probe w).1.isSome := by
  cases probe with
  | liveness => simp [told, Evaluator.liveness_of_patient h]
  | readiness => simp [told, Evaluator.readiness_of_patient h]

theorem told_patient (h : w.patience = none) : (told e probe w).2.patience = none :=
  (told_of_hidden e probe Hidden.alike ⟨rfl, rfl, h, h⟩).2.patient.1

end Told

theorem length_alone (e : Evaluator) (probes : List Probe) (w : World) :
    (alone e probes w).length = probes.length := by
  induction probes generalizing w with
  | nil => rfl
  | cons probe probes ih => rw [alone, List.length_cons, ih, List.length_cons]

theorem count_connect_alone (e : Evaluator) (probes : List Probe) (w : World) :
    ∀ answer ∈ alone e probes w, answer.events.count .connect = 1 := by
  induction probes generalizing w with
  | nil => simp [alone]
  | cons probe probes ih =>
      rw [alone, List.forall_mem_cons]
      exact ⟨count_connect_told e probe rfl, ih _⟩

theorem getElem?_alone (e : Evaluator) (probes : List Probe) (w : World) (i : Nat) :
    (alone e probes w)[i]? =
      probes[i]?.map fun probe => .told e probe (leftBy e (probes.take i) w).bare := by
  induction probes generalizing w i with
  | nil => rfl
  | cons probe probes ih =>
      cases i with
      | zero => rfl
      | succ i =>
          rw [alone, List.getElem?_cons_succ, List.getElem?_cons_succ, ih, List.take_succ_cons]
          rfl

theorem leftBy_patient (e : Evaluator) (probes : List Probe) {w : World}
    (h : w.patience = none) : (leftBy e probes w).patience = none := by
  induction probes generalizing w with
  | nil => exact h
  | cons probe probes ih => exact ih (told_patient e probe h)

theorem Answer.told_eq_of_alike (e : Evaluator) (probe : Probe) {w v : World} (h : w.Alike v) :
    Answer.told e probe v = .told e probe w := by
  obtain ⟨hsame, hleft⟩ := told_of_hidden e probe Hidden.alike h
  rw [Answer.told, hsame, hleft.events_eq, Answer.told]

/-- To a caller who waits an answer depends on no more than what is left of the cluster. -/
theorem getElem?_alone_of_patient (e : Evaluator) {probes : List Probe} {w v : World} {i : Nat}
    {probe : Probe} (hprobe : probes[i]? = some probe) (hw : w.patience = none)
    (hv : v.patience = none) (hevents : v.events = [])
    (hcluster : v.cluster = (leftBy e (probes.take i) w).cluster) :
    (alone e probes w)[i]? = some (.told e probe v) := by
  have halike : v.Alike (leftBy e (probes.take i) w).bare :=
    ⟨hcluster.symm, hevents.symm, hv, leftBy_patient e _ hw⟩
  rw [getElem?_alone, hprobe, Option.map_some, Answer.told_eq_of_alike e probe halike]

theorem alone_congr (e : Evaluator) (probes : List Probe) {w v : World}
    (hcluster : v.cluster = w.cluster) (hw : w.patience = none) (hv : v.patience = none) :
    alone e probes v = alone e probes w := by
  induction probes generalizing w v with
  | nil => rfl
  | cons probe probes ih =>
      have halike : w.bare.Alike v.bare := ⟨hcluster, rfl, hw, hv⟩
      obtain ⟨-, hleft⟩ := told_of_hidden e probe Hidden.alike halike
      rw [alone, alone, Answer.told_eq_of_alike e probe halike,
        ih hleft.cluster_eq hleft.patient.1 hleft.patient.2]

/-! ### One request -/

/-- What memory gives where no reading is left. -/
def noReading : Except Failure Memory.Usage :=
  .error (.io "no reading")

def State.reading (state : State) : Except Failure Memory.Usage :=
  (inTurn noReading state.readings).1

/-- The text of families, nothing if they cannot be written. -/
def shown (families : List Metrics.Family) : String :=
  (Metrics.exposition families).toOption.getD ""

namespace Service

/-- The families that are shown if memory gives a reading. -/
def gathered (s : Service) (reading : Except Failure Memory.Usage) : List Metrics.Family :=
  let own := if s.registry.source.isSome then Metrics.collect reading else []
  Metrics.Registry.sorted (own ++ s.registry.others)

/-- The readings that are left by a request for the metrics. -/
def readingsLeft (s : Service) (readings : List (Except Failure Memory.Usage)) :
    List (Except Failure Memory.Usage) :=
  if s.registry.source.isSome then (inTurn noReading readings).2 else readings

/-- What a request does to what all requests share. -/
structure Serves (s : Service) (r : Request) (before : State) (response : Option Response)
    (after : State) : Prop where
  of_probe : ∀ probe, r.probe? = some probe →
    let run := told s.evaluator probe before.world.bare
    response = run.1 ∧ after.world.events = before.world.events ++ run.2.events ∧
      run.2.events.count .connect = 1 ∧ after.world.bare = run.2.bare ∧
      after.readings = before.readings
  of_metrics : r.asked? = some .metrics →
    response =
      some ⟨200, .text Metrics.mediaType (shown (s.gathered before.reading))⟩ ∧
    (∃ lines, after.world = before.world.withLog (before.world.log ++ lines)) ∧
    after.readings = s.readingsLeft before.readings
  of_about : r.asked? = some .about →
    response = some (.ofJson 200 Build.current.toJson) ∧ after = before
  of_other : r.asked? = none → after = before ∧ ∃ refusal, response = some refusal ∧
    (Target.path? r.target = none → refusal.status = 400) ∧
    ∀ path, Target.path? r.target = some path →
      refusal.status = if (Route.ofPath? path).isSome then 405 else 404

variable (s : Service) {r : Request} (state : State)

theorem handle_of_probe {probe : Probe} (h : r.probe? = some probe) :
    ∃ message, s.handle r state = ((told s.evaluator probe (state.probed message)).1,
      { state with world := (told s.evaluator probe (state.probed message)).2 }) := by
  obtain ⟨rfl, hasked⟩ | ⟨rfl, hasked⟩ := Request.probe?_eq_some_iff.1 h
  · exact ⟨"liveness requested", by rw [handle_of_asked s hasked]; rfl⟩
  · exact ⟨"readiness requested", by rw [handle_of_asked s hasked]; rfl⟩

theorem bind_run {α β : Type} {course : Action α} {next : α → Action β} {state state' : State}
    {a : α} (h : course state = (a, state')) : (course >>= next) state = next a state' := by
  simp only [bind, StateT.bind, h]

theorem metricsText_run (families : List Metrics.Family) :
    ∃ lines, metricsText families state = (shown families,
      { state with world := state.world.withLog (state.world.log ++ lines) }) := by
  rw [metricsText, shown]
  cases Metrics.exposition families with
  | ok text => exact ⟨[], by rw [List.append_nil]; rfl⟩
  | error failure => exact ⟨[_], rfl⟩

theorem readMemory_run :
    ∃ lines, readMemory state = (state.reading,
      ⟨state.world.withLog (state.world.log ++ lines), (inTurn noReading state.readings).2⟩) := by
  have htake : takeReading state =
      (state.reading, { state with readings := (inTurn noReading state.readings).2 }) := rfl
  rw [readMemory, bind_run htake]
  cases state.reading with
  | ok u => exact ⟨[], by rw [List.append_nil]; rfl⟩
  | error failure => exact ⟨[_], rfl⟩

theorem gather_run :
    ∃ lines, s.registry.gather (fun _ => readMemory) state =
      (s.gathered state.reading,
        ⟨state.world.withLog (state.world.log ++ lines), s.readingsLeft state.readings⟩) := by
  rw [Metrics.Registry.gather, gathered, readingsLeft]
  cases s.registry.source with
  | none => exact ⟨[], by rw [List.append_nil]; rfl⟩
  | some _ =>
      obtain ⟨lines, hread⟩ := readMemory_run state
      have hrun : (readMemory >>= fun reading => pure
          (Metrics.Registry.sorted (Metrics.collect reading ++ s.registry.others))) state = _ :=
        bind_run hread
      exact ⟨lines, hrun⟩

theorem answer_metrics :
    ∃ lines, s.answer .metrics state =
      (some ⟨200, .text Metrics.mediaType (shown (s.gathered state.reading))⟩,
        ⟨state.world.withLog (state.world.log ++ lines), s.readingsLeft state.readings⟩) := by
  obtain ⟨first, hgather⟩ := s.gather_run state
  obtain ⟨more, htext⟩ := metricsText_run _ (s.gathered state.reading)
  rw [answer, bind_run hgather, bind_run htext]
  exact ⟨first ++ more, by rw [← List.append_assoc]; rfl⟩

theorem handle_of_not_asked (h : r.asked? = none) :
    ∃ refusal, s.handle r state = (some refusal, state) ∧
      (Target.path? r.target = none → refusal.status = 400) ∧
      ∀ path, Target.path? r.target = some path →
        refusal.status = if (Route.ofPath? path).isSome then 405 else 404 := by
  rw [handle]
  cases hpath : Target.path? r.target with
  | none => exact ⟨_, rfl, fun _ => rfl, by simp⟩
  | some path =>
      cases hroute : Route.ofPath? path with
      | none =>
          refine ⟨.notFound, ?_, by simp, by simp [hroute, Response.notFound]⟩
          simp only [hroute]
          rfl
      | some route =>
          have hmethod : r.method ≠ "GET" := by
            intro hget
            simp [Request.asked?, hget, hpath, hroute] at h
          refine ⟨.badMethod, ?_, by simp, by simp [hroute, Response.badMethod]⟩
          simp only [hroute, if_neg hmethod]
          rfl

theorem serves (r : Request) :
    s.Serves r state (s.handle r state).1 (s.handle r state).2 := by
  constructor
  · intro probe hprobe
    obtain ⟨message, hrun⟩ := s.handle_of_probe state hprobe
    obtain ⟨hsame, hevents, hbare⟩ := told_bare s.evaluator probe (state.probed message)
    rw [hrun]
    exact ⟨hsame, hevents, count_connect_told _ _ rfl, hbare, rfl⟩
  · intro hasked
    obtain ⟨lines, hrun⟩ := s.answer_metrics state
    rw [handle_of_asked s hasked, hrun]
    exact ⟨rfl, ⟨lines, rfl⟩, rfl⟩
  · intro hasked
    rw [handle_of_asked s hasked]
    exact ⟨rfl, rfl⟩
  · intro hasked
    obtain ⟨refusal, hrun, hstatus⟩ := s.handle_of_not_asked state hasked
    rw [hrun]
    exact ⟨rfl, refusal, rfl, hstatus⟩

/-! ### A sequence of requests -/

section Serves

variable {s} {before after : State} {response : Option Response}

/-- What is no probe is not seen by the cluster. -/
theorem Serves.silent (h : s.Serves r before response after) (hprobe : r.probe? = none) :
    after.world.events = before.world.events ∧ after.world.bare = before.world.bare := by
  obtain hasked | hasked | hasked := Request.asked?_of_not_probe hprobe
  · obtain ⟨-, ⟨lines, hworld⟩, -⟩ := h.of_metrics hasked
    rw [hworld]
    exact ⟨rfl, rfl⟩
  · rw [(h.of_about hasked).2]
    exact ⟨rfl, rfl⟩
  · rw [(h.of_other hasked).1]
    exact ⟨rfl, rfl⟩

theorem Serves.readings_eq (h : s.Serves r before response after) :
    after.readings =
      if r.asked? = some .metrics then s.readingsLeft before.readings else before.readings := by
  cases hprobe : r.probe? with
  | some probe =>
      obtain ⟨-, -, -, -, hreadings⟩ := h.of_probe probe hprobe
      have hother : r.asked? ≠ some .metrics := by
        intro hasked
        rw [Request.probe?, hasked] at hprobe
        cases hprobe
      rw [hreadings, if_neg hother]
  | none =>
      obtain hasked | hasked | hasked := Request.asked?_of_not_probe hprobe
      · rw [(h.of_metrics hasked).2.2, if_pos hasked]
      · rw [(h.of_about hasked).2, hasked, if_neg (by decide)]
      · rw [(h.of_other hasked).1, hasked, if_neg (by decide)]

/-- A caller who waits is answered, and goes on waiting. -/
theorem Serves.patient (h : s.Serves r before response after)
    (hpatient : before.world.patience = none) :
    response.isSome ∧ after.world.patience = none := by
  cases hprobe : r.probe? with
  | some probe =>
      obtain ⟨hresponse, -, -, hbare, -⟩ := h.of_probe probe hprobe
      rw [hresponse]
      refine ⟨told_isSome _ _ hpatient, ?_⟩
      exact (congrArg World.patience hbare).trans (told_patient _ _ hpatient)
  | none =>
      refine ⟨?_, (congrArg World.patience (h.silent hprobe).2).trans hpatient⟩
      obtain hasked | hasked | hasked := Request.asked?_of_not_probe hprobe
      · rw [(h.of_metrics hasked).1, Option.isSome_some]
      · rw [(h.of_about hasked).1, Option.isSome_some]
      · obtain ⟨-, refusal, hresponse, -⟩ := h.of_other hasked
        rw [hresponse, Option.isSome_some]

end Serves

theorem handleAll_cons (r : Request) (requests : List Request) (state : State) :
    s.handleAll (r :: requests) state =
      ((s.handle r state).1 :: (s.handleAll requests (s.handle r state).2).1,
        (s.handleAll requests (s.handle r state).2).2) := by
  rw [handleAll, List.mapM_cons]
  rfl

theorem serves_each (requests : List Request) (state : State) (i : Nat)
    (hi : i < requests.length) :
    ∃ response, (s.handleAll requests state).1[i]? = some response ∧
      s.Serves requests[i] (s.handleAll (requests.take i) state).2 response
        (s.handleAll (requests.take (i + 1)) state).2 := by
  induction requests generalizing state i with
  | nil => exact absurd hi (Nat.not_lt_zero i)
  | cons r requests ih =>
      simp only [handleAll_cons, List.take_succ_cons]
      cases i with
      | zero => exact ⟨(s.handle r state).1, rfl, s.serves state r⟩
      | succ i =>
          obtain ⟨response, hresponse, hserves⟩ :=
            ih (s.handle r state).2 i (Nat.lt_of_succ_lt_succ hi)
          simp only [handleAll_cons, List.take_succ_cons]
          exact ⟨response, hresponse, hserves⟩

def probeResponses (requests : List Request) (responses : List (Option Response)) :
    List (Option Response) :=
  (requests.zip responses).filterMap fun (r, response) => r.probe?.map fun _ => response

section ProbeResponses

variable {requests : List Request} {response : Option Response}
  {responses : List (Option Response)}

theorem probeResponses_cons_of_none (h : r.probe? = none) :
    probeResponses (r :: requests) (response :: responses) =
      probeResponses requests responses := by
  simp [probeResponses, h]

theorem probeResponses_cons_of_some {probe : Probe} (h : r.probe? = some probe) :
    probeResponses (r :: requests) (response :: responses) =
      response :: probeResponses requests responses := by
  simp [probeResponses, h]

end ProbeResponses

theorem probes_alone (requests : List Request) (state : State) {w : World}
    (hw : w.bare = state.world.bare) :
    probeResponses requests (s.handleAll requests state).1 =
        (alone s.evaluator (requests.filterMap (·.probe?)) w).map (·.response) ∧
      (s.handleAll requests state).2.world.events = state.world.events ++
        (alone s.evaluator (requests.filterMap (·.probe?)) w).flatMap (·.events) := by
  induction requests generalizing state w with
  | nil => exact ⟨rfl, (List.append_nil _).symm⟩
  | cons r requests ih =>
      have hserves := s.serves state r
      rw [handleAll_cons]
      cases hprobe : r.probe? with
      | none =>
          obtain ⟨hevents, hbare⟩ := hserves.silent hprobe
          obtain ⟨hresponses, hmore⟩ := ih (s.handle r state).2 (hw.trans hbare.symm)
          rw [probeResponses_cons_of_none hprobe, List.filterMap_cons_none hprobe, hmore, hevents]
          exact ⟨hresponses, rfl⟩
      | some probe =>
          obtain ⟨hresponse, hevents, -, hbare, -⟩ := hserves.of_probe probe hprobe
          rw [← hw] at hresponse hevents hbare
          obtain ⟨hresponses, hmore⟩ := ih (s.handle r state).2 hbare.symm
          rw [probeResponses_cons_of_some hprobe, List.filterMap_cons_some hprobe, alone,
            List.map_cons, List.flatMap_cons, hmore, hevents, hresponses, List.append_assoc,
            hresponse]
          exact ⟨rfl, rfl⟩

theorem readings_handleAll (requests : List Request) (state : State) :
    (s.handleAll requests state).2.readings =
      s.readingsLeft^[requests.countP (·.asked? = some .metrics)] state.readings := by
  induction requests generalizing state with
  | nil => rfl
  | cons r requests ih =>
      rw [handleAll_cons, ih, (s.serves state r).readings_eq]
      by_cases hasked : r.asked? = some .metrics
      · rw [if_pos hasked, List.countP_cons_of_pos (by simpa using hasked),
          Function.iterate_succ_apply]
      · rw [if_neg hasked, List.countP_cons_of_neg (by simpa using hasked)]

theorem length_handleAll (requests : List Request) (state : State) :
    (s.handleAll requests state).1.length = requests.length := by
  induction requests generalizing state with
  | nil => rfl
  | cons r requests ih => rw [handleAll_cons, List.length_cons, ih, List.length_cons]

theorem answered_of_patient (requests : List Request) {state : State}
    (h : state.world.patience = none) :
    ∀ response ∈ (s.handleAll requests state).1, response.isSome := by
  induction requests generalizing state with
  | nil => exact fun _ h => absurd h List.not_mem_nil
  | cons r requests ih =>
      obtain ⟨hsome, hpatient⟩ := (s.serves state r).patient h
      rw [handleAll_cons, List.forall_mem_cons]
      exact ⟨hsome, ih hpatient⟩

/-- Requests are served one after the other, each as its kind is served. The probes among them are
answered as if nothing else were sent, and what the cluster sees is what it sees of them, one
session being asked for by each; memory is read for the metrics only. To callers who wait all
requests are answered, and an answer to a probe depends on no more than what the probes before it
have left of the cluster's replies. -/
theorem requests_framed (requests : List Request) (state : State) :
    let responses := (s.handleAll requests state).1
    let after := (s.handleAll requests state).2
    let probes := requests.filterMap (·.probe?)
    let answers := alone s.evaluator probes state.world
    responses.length = requests.length ∧
    (∀ (i : Nat) (hi : i < requests.length), ∃ response, responses[i]? = some response ∧
      s.Serves requests[i] (s.handleAll (requests.take i) state).2 response
        (s.handleAll (requests.take (i + 1)) state).2) ∧
    probeResponses requests responses = answers.map (·.response) ∧
    after.world.events = state.world.events ++ answers.flatMap (·.events) ∧
    answers.length = probes.length ∧
    (∀ answer ∈ answers, answer.events.count .connect = 1) ∧
    after.readings =
      s.readingsLeft^[requests.countP (·.asked? = some .metrics)] state.readings ∧
    (state.world.patience = none →
      (∀ response ∈ responses, response.isSome) ∧
      (∀ (i : Nat) (probe : Probe) (w : World), probes[i]? = some probe →
        w.patience = none → w.events = [] →
        w.cluster = (leftBy s.evaluator (probes.take i) state.world).cluster →
        answers[i]? = some (.told s.evaluator probe w)) ∧
      ∀ w, w.patience = none → w.cluster = state.world.cluster →
        alone s.evaluator probes w = answers) := by
  intro responses after probes answers
  obtain ⟨hresponses, hevents⟩ := s.probes_alone requests state rfl
  refine ⟨s.length_handleAll requests state, s.serves_each requests state, hresponses, hevents,
    length_alone _ _ _, count_connect_alone _ _ _, s.readings_handleAll requests state, ?_⟩
  intro hpatient
  refine ⟨s.answered_of_patient requests hpatient, ?_, ?_⟩
  · intro i probe w hprobe hw hempty hcluster
    exact getElem?_alone_of_patient s.evaluator hprobe hpatient hw hempty hcluster
  · intro w hw hcluster
    exact alone_congr s.evaluator probes hcluster hpatient hw

/-- Neither a refused method nor a reading that fails comes between the two probes of a broker. -/
theorem requests_framed_between :
    let s : Service := ⟨⟨3, .ofSeconds 1⟩, { source := some () }⟩
    let state : State := {
      world := { cluster := { metadata := [.never, .now (.ok ⟨[], 1, []⟩)] } }
      readings := [.error (.io "gone")] }
    let requests : List Request := [⟨"GET", "/health/ready"⟩, ⟨"POST", "/health/live"⟩,
      ⟨"GET", "/metrics"⟩, ⟨"GET", "/health/live/?verbose"⟩]
    let session : List Event := [.connect, .fetchMetadata, .clientDropped, .released]
    let later : World := { cluster := { metadata := [.now (.ok ⟨[], 1, []⟩)] } }
    (s.handleAll requests state).2.world.events = session ++ session ∧
      (s.handleAll requests state).1[2]? = some (some ⟨200, .text Metrics.mediaType ""⟩) ∧
      (∃ refusal, (s.handleAll requests state).1[1]? = some (some refusal) ∧
        refusal.status = 405) ∧
      (∀ response ∈ (s.handleAll requests state).1, response.isSome) ∧
      (alone s.evaluator [.readiness, .liveness] state.world)[1]? =
        some (.told s.evaluator .liveness later) := by
  intro s state requests session later
  obtain ⟨-, hserves, -, hevents, -, -, -, hpatient⟩ := s.requests_framed requests state
  obtain ⟨rejected, hrejected, hother⟩ := hserves 1 (by decide)
  obtain ⟨exposed, hexposed, hmetrics⟩ := hserves 2 (by decide)
  obtain ⟨hanswered, halone, -⟩ := hpatient rfl
  obtain ⟨rfl, -⟩ := hmetrics.of_metrics (by decide +kernel)
  obtain ⟨-, refusal, rfl, -, hstatus⟩ := hother.of_other (by decide +kernel)
  have hleft : later.cluster = (leftBy s.evaluator [.readiness] state.world).cluster := rfl
  refine ⟨?_, hexposed, ⟨refusal, hrejected, ?_⟩, hanswered, ?_⟩
  · rw [hevents]
    decide +kernel
  · rw [hstatus "/health/live".toList (by decide +kernel)]
    decide +kernel
  · exact halone 1 .liveness later rfl rfl rfl hleft

end Service

end BrokerWatch.Http
