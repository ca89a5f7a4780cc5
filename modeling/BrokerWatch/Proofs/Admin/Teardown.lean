import BrokerWatch.Admin.Session
import Mathlib.Data.List.Basic

/-!
# The teardown of a session

A session that is released goes by the same way as one that is only dropped, and takes its teardown
along the first time. So whatever is done with a session, its teardown runs once if the session ends
and never otherwise. It is given the client, to which all calls before it went; behind it there is no
session to call, and of a client that was kept no more is seen than its keeper letting go of it.
-/

namespace BrokerWatch.Admin

def Use.Ends (use : Use) : Prop :=
  use = .release ∨ use = .drop

instance (use : Use) : Decidable use.Ends :=
  inferInstanceAs (Decidable (_ ∨ _))

/-- The event by which a teardown is seen to have run, whatever it was given. -/
def Teardown.report : Teardown → Event
  | onRelease => .released
  | drop => .teardown
  | keep => .teardown

theorem Teardown.count_report_run (t : Teardown) (held : Held) :
    (t.run held).1.count t.report = 1 := by
  cases t <;> cases held <;> rfl

/-- A teardown keeps the client or nothing. -/
theorem Teardown.kept_run_client (t : Teardown) :
    (t.run .client).2 = none ∨ (t.run .client).2 = some .client := by
  cases t with
  | onRelease => exact .inl rfl
  | drop => exact .inl rfl
  | keep => exact .inr rfl

/-! ### Uses as they go -/

/-- A use as it went: what it came to, what was seen of it, and what is kept behind it. -/
structure Step where
  use : Use
  outcome : Outcome
  events : List Event
  kept : Option Held

/-- A use of a session that goes on. Only calls are seen, and they reach the client. -/
inductive Step.Early : Step → Prop
  | text : Early ⟨.text, .text "AdminSession \x7b released: false \x7d", [], none⟩
  | fetchMetadata : Early ⟨.fetchMetadata, .call .client, [.fetchMetadata], none⟩
  | describeLogDirs (id : Int32) :
      Early ⟨.describeLogDirs id, .call .client, [.describeLogDirs id], none⟩
  | dropKept : Early ⟨.dropKept, .keptDropped false, [], none⟩

/-- A use behind the end of a session. Nothing is reached, and nothing is seen but that a keeper drops
the client. -/
inductive Step.Late : Step → Prop
  | refused {use : Use} (h : use ≠ .dropKept) (kept : Option Held) : Late ⟨use, .noSession, [], kept⟩
  | dropKept : Late ⟨.dropKept, .keptDropped true, [.clientDropped], none⟩
  | nothingKept : Late ⟨.dropKept, .keptDropped false, [], none⟩

def Event.IsCall (event : Event) : Prop :=
  event = .fetchMetadata ∨ ∃ id, event = .describeLogDirs id

theorem Step.Early.isCall {step : Step} (h : step.Early) {event : Event}
    (hevent : event ∈ step.events) : event.IsCall := by
  cases h with
  | text => cases hevent
  | fetchMetadata => exact .inl (List.mem_singleton.1 hevent)
  | describeLogDirs id => exact .inr ⟨id, List.mem_singleton.1 hevent⟩
  | dropKept => cases hevent

theorem Step.Late.eq_clientDropped {step : Step} (h : step.Late) {event : Event}
    (hevent : event ∈ step.events) : event = .clientDropped := by
  cases h with
  | refused => cases hevent
  | dropKept => exact List.mem_singleton.1 hevent
  | nothingKept => cases hevent

theorem count_of_early {steps : List Step} (h : ∀ step ∈ steps, step.Early) {event : Event}
    (hevent : ¬event.IsCall) : (steps.flatMap (·.events)).count event = 0 := by
  rw [List.count_eq_zero, List.mem_flatMap]
  intro hseen
  obtain ⟨step, hstep, hmem⟩ := hseen
  exact hevent ((h step hstep).isCall hmem)

theorem count_of_late {steps : List Step} (h : ∀ step ∈ steps, step.Late) {event : Event}
    (hevent : event ≠ .clientDropped) : (steps.flatMap (·.events)).count event = 0 := by
  rw [List.count_eq_zero, List.mem_flatMap]
  intro hseen
  obtain ⟨step, hstep, hmem⟩ := hseen
  exact hevent ((h step hstep).eq_clientDropped hmem)

theorem not_isCall_clientDropped : ¬Event.IsCall .clientDropped := by
  simp [Event.IsCall]

theorem Teardown.not_isCall_report (t : Teardown) : ¬t.report.IsCall := by
  cases t <;> simp [report, Event.IsCall]

theorem Teardown.report_ne_clientDropped (t : Teardown) : t.report ≠ .clientDropped := by
  cases t <;> simp [report]

namespace Guard

def steps (g : Guard) : List Use → List Step
  | [] => []
  | use :: uses =>
    let (next, outcome, events) := g.apply use
    ⟨use, outcome, events, next.kept⟩ :: next.steps uses

theorem steps_cons {g next : Guard} {use : Use} {outcome : Outcome} {events : List Event}
    (h : g.apply use = (next, outcome, events)) (uses : List Use) :
    g.steps (use :: uses) = ⟨use, outcome, events, next.kept⟩ :: next.steps uses := by
  rw [steps, h]

theorem map_use_steps (g : Guard) (uses : List Use) : (g.steps uses).map (·.use) = uses := by
  induction uses generalizing g with
  | nil => rfl
  | cons use uses ih => rw [steps_cons rfl, List.map_cons, ih]

theorem flatMap_events_steps (g : Guard) (uses : List Use) :
    (g.steps uses).flatMap (·.events) = (g.run uses).2 := by
  induction uses generalizing g with
  | nil => rfl
  | cons use uses ih =>
      rw [steps_cons rfl, List.flatMap_cons, ih]
      rfl

/-! ### While the session is open -/

/-- Both ways to end a session run its teardown on the client, and on nothing else: the way of a
release passes by the teardown once more, but there is none left. -/
theorem finish_opened (t : Teardown) (byHand : Bool) :
    (opened t).finish (.opened t) byHand = (⟨none, (t.run .client).2⟩, (t.run .client).1) := by
  have hgone : ∀ kept : Option Held, (kept <|> none) = kept := fun kept => by cases kept <;> rfl
  cases byHand with
  | false =>
      show (({ session := none, kept := ((t.run .client).2 <|> none) <|> none } : Guard),
        [] ++ (t.run .client).1) = _
      rw [hgone, hgone, List.nil_append]
  | true =>
      show (({ session := none, kept := (none <|> (t.run .client).2) <|> none } : Guard),
        (t.run .client).1 ++ []) = _
      rw [hgone, List.append_nil]
      rfl

theorem apply_opened_of_ends (t : Teardown) {use : Use} (h : use.Ends) :
    (opened t).apply use = (⟨none, (t.run .client).2⟩, .done, (t.run .client).1) := by
  rcases h with rfl | rfl
  · exact congrArg (fun left => (left.1, Outcome.done, left.2)) (finish_opened t true)
  · exact congrArg (fun left => (left.1, Outcome.done, left.2)) (finish_opened t false)

/-- A use that does not end the session leaves it open. -/
theorem apply_opened_of_not_ends (t : Teardown) {use : Use} (h : ¬use.Ends) :
    ∃ outcome events, (opened t).apply use = (opened t, outcome, events) ∧
      Step.Early ⟨use, outcome, events, none⟩ := by
  cases use with
  | text => exact ⟨_, _, rfl, .text⟩
  | fetchMetadata => exact ⟨_, _, rfl, .fetchMetadata⟩
  | describeLogDirs id => exact ⟨_, _, rfl, .describeLogDirs id⟩
  | dropKept => exact ⟨_, _, rfl, .dropKept⟩
  | release => exact absurd (.inl rfl) h
  | drop => exact absurd (.inr rfl) h

/-- A session goes on until the first use that ends it. -/
theorem steps_opened (t : Teardown) (uses : List Use) :
    (∀ use ∈ uses, ¬use.Ends) ∧ (∀ step ∈ (opened t).steps uses, step.Early) ∨
      ∃ before last later, last.Ends ∧ last ∈ uses ∧ (∀ step ∈ before, step.Early) ∧
        (opened t).steps uses =
          before ++ ⟨last, .done, (t.run .client).1, (t.run .client).2⟩ ::
            (⟨none, (t.run .client).2⟩ : Guard).steps later := by
  induction uses with
  | nil => exact .inl ⟨by simp, by simp [steps]⟩
  | cons use uses ih =>
      by_cases hends : use.Ends
      · refine .inr ⟨[], use, uses, hends, List.mem_cons_self, by simp, ?_⟩
        rw [steps_cons (apply_opened_of_ends t hends), List.nil_append]
      · obtain ⟨outcome, events, happly, hearly⟩ := apply_opened_of_not_ends t hends
        rw [steps_cons happly]
        rcases ih with ⟨hnone, hall⟩ | ⟨before, last, later, hlast, hmem, hbefore, hsteps⟩
        · exact .inl ⟨List.forall_mem_cons.2 ⟨hends, hnone⟩, List.forall_mem_cons.2 ⟨hearly, hall⟩⟩
        · refine .inr ⟨⟨use, outcome, events, none⟩ :: before, last, later, hlast,
            List.mem_cons_of_mem _ hmem, List.forall_mem_cons.2 ⟨hearly, hbefore⟩, ?_⟩
          rw [hsteps, List.cons_append]
          rfl

/-! ### When the session is over -/

/-- A client that is kept is dropped by its keeper, at the first time that it is asked to. -/
theorem steps_over {kept : Option Held} (hkept : kept = none ∨ kept = some .client)
    (uses : List Use) :
    let steps := (⟨none, kept⟩ : Guard).steps uses
    (∀ step ∈ steps, step.Late) ∧
      (steps.flatMap (·.events)).count .clientDropped =
        if kept = none ∨ .dropKept ∉ uses then 0 else 1 := by
  induction uses generalizing kept with
  | nil => simp [steps]
  | cons use uses ih =>
      by_cases hdrop : use = .dropKept
      · subst hdrop
        rcases hkept with rfl | rfl
        · obtain ⟨hlate, hcount⟩ := ih (.inl rfl)
          rw [steps_cons rfl]
          exact ⟨List.forall_mem_cons.2 ⟨.nothingKept, hlate⟩, by simpa using hcount⟩
        · obtain ⟨hlate, hcount⟩ := @ih none (.inl rfl)
          rw [steps_cons rfl]
          exact ⟨List.forall_mem_cons.2 ⟨.dropKept, hlate⟩, by simpa [Held.dropped] using hcount⟩
      · have happly : (⟨none, kept⟩ : Guard).apply use = (⟨none, kept⟩, .noSession, []) := by
          cases use <;> first | rfl | exact absurd rfl hdrop
        obtain ⟨hlate, hcount⟩ := ih hkept
        rw [steps_cons happly]
        refine ⟨List.forall_mem_cons.2 ⟨.refused hdrop kept, hlate⟩, ?_⟩
        rw [List.flatMap_cons, List.nil_append, hcount]
        simp [Ne.symm hdrop]

/-! ### From the first use to the last -/

/-- Whatever is done with a session: as long as it is neither released nor dropped, its teardown does
not run and every call reaches the client. The first use that ends it runs the teardown once, on the
client. Behind that no call reaches anything, and the teardown does not run again. The client is
dropped once: where its teardown drops it, then and there, before the release is reported if it is to
be; where it is kept, when its keeper drops it, and not before. -/
theorem torn_down_once (t : Teardown) (uses : List Use) :
    let steps := (opened t).steps uses
    let seen := ((opened t).run uses).2
    steps.map (·.use) = uses ∧ steps.flatMap (·.events) = seen ∧
      if .release ∈ uses ∨ .drop ∈ uses then
        seen.count t.report = 1 ∧
        ∃ before last after, steps = before ++ last :: after ∧
          (∀ step ∈ before, step.Early) ∧ last.use.Ends ∧ last.outcome = .done ∧
          (last.events, last.kept) = t.run .client ∧ (∀ step ∈ after, step.Late) ∧
          (t = .onRelease → last.events = [.clientDropped, .released]) ∧
          seen.count .clientDropped =
            if t = .keep ∧ .dropKept ∉ after.map (·.use) then 0 else 1
      else
        seen.count t.report = 0 ∧ seen.count .clientDropped = 0 ∧ ∀ step ∈ steps, step.Early := by
  intro steps seen
  have hseen : steps.flatMap (·.events) = seen := (opened t).flatMap_events_steps uses
  refine ⟨(opened t).map_use_steps uses, hseen, ?_⟩
  rcases steps_opened t uses with ⟨hnone, hall⟩ | ⟨before, last, later, hends, hmem, hbefore, hsteps⟩
  · have hopen : ¬(Use.release ∈ uses ∨ Use.drop ∈ uses) := fun hended =>
      hended.elim (fun h => hnone _ h (.inl rfl)) fun h => hnone _ h (.inr rfl)
    rw [if_neg hopen, ← hseen]
    exact ⟨count_of_early hall t.not_isCall_report, count_of_early hall not_isCall_clientDropped, hall⟩
  · have hended : Use.release ∈ uses ∨ Use.drop ∈ uses := by
      rcases hends with rfl | rfl
      · exact .inl hmem
      · exact .inr hmem
    obtain ⟨hlate, hdropped⟩ := steps_over t.kept_run_client later
    have hcount : ∀ event : Event, ¬event.IsCall → seen.count event =
        (t.run .client).1.count event +
          (((⟨none, (t.run .client).2⟩ : Guard).steps later).flatMap (·.events)).count event := by
      intro event hevent
      have hsplit : seen = before.flatMap (·.events) ++ ((t.run .client).1 ++
          ((⟨none, (t.run .client).2⟩ : Guard).steps later).flatMap (·.events)) := by
        rw [← hseen, show steps = _ from hsteps, List.flatMap_append, List.flatMap_cons]
      rw [hsplit, List.count_append, List.count_append, count_of_early hbefore hevent, Nat.zero_add]
    rw [if_pos hended]
    refine ⟨?_, before, _, _, hsteps, hbefore, hends, rfl, rfl, hlate, ?_, ?_⟩
    · rw [hcount _ t.not_isCall_report, t.count_report_run,
        count_of_late hlate t.report_ne_clientDropped]
    · intro h
      subst h
      rfl
    · rw [hcount _ not_isCall_clientDropped, hdropped, map_use_steps]
      cases t <;> simp [Teardown.run, Held.dropped]

/-- A session with a kept client, which its keeper lets go of after the session's end. -/
example : ((opened .keep).run [.fetchMetadata, .dropKept, .release, .drop, .dropKept, .dropKept]).2 =
    [.fetchMetadata, .teardown, .clientDropped] := by
  decide

end Guard

end BrokerWatch.Admin
