import GuidedTour.Tour.Operation
import GuidedTour.Proofs.Machine.Transition

/-! What performing actions does to a tour. An action other than a completion keeps the
flow and the plan or drops both. What holds along a whole list of actions, through all
the flows that it completes and begins, follows from four small steps; the induction
over the planned features is made once, here. -/
namespace GuidedTour

theorem featuresAfter_of_cons {plan : List Feature} {f g : Feature} {rest : List Feature}
    (nodup : plan.Nodup) (h : featuresAfter f plan = g :: rest) :
    g ∈ plan ∧ featuresAfter g plan = rest := by
  induction plan with
  | nil => cases h
  | cons p plan ih =>
    rw [List.nodup_cons] at nodup
    by_cases hp : p = f
    · rw [featuresAfter, if_pos hp] at h
      have hg : p ≠ g := fun e => nodup.1 (by rw [h, e]; exact List.mem_cons_self)
      rw [featuresAfter, if_neg hg, h, featuresAfter, if_pos rfl]
      exact ⟨List.mem_cons_of_mem _ List.mem_cons_self, rfl⟩
    · rw [featuresAfter, if_neg hp] at h
      obtain ⟨mem, after⟩ := ih nodup.2 h
      have hg : p ≠ g := fun e => nodup.1 (e ▸ mem)
      rw [featuresAfter, if_neg hg]
      exact ⟨List.mem_cons_of_mem _ mem, after⟩

theorem featuresAfter_suffix {plan : List Feature} {f : Feature} (h : f ∈ plan) :
    f :: featuresAfter f plan <:+ plan := by
  induction plan with
  | nil => cases h
  | cons p plan ih =>
    unfold featuresAfter
    by_cases hp : p = f
    · simp [hp]
    · have mem : f ∈ plan := by simpa [Ne.symm hp] using h
      rw [if_neg hp]
      exact (ih mem).trans (List.suffix_cons p plan)

theorem getLast?_eq_iff_featuresAfter {plan : List Feature} {f : Feature} (nodup : plan.Nodup)
    (h : f ∈ plan) : plan.getLast? = some f ↔ featuresAfter f plan = [] := by
  obtain ⟨before, split⟩ := featuresAfter_suffix h
  have once : f ∉ featuresAfter f plan := by
    rw [← split] at nodup
    exact (List.nodup_cons.1 (List.nodup_append.1 nodup).2.1).1
  have last : plan.getLast? = (f :: featuresAfter f plan).getLast? := by
    conv_lhs => rw [← split, List.getLast?_append, List.getLast?_cons, Option.some_or]
    exact List.getLast?_cons.symm
  rw [last]
  cases after : featuresAfter f plan with
  | nil => simp
  | cons g rest =>
    refine iff_of_false (fun ends => once ?_) (List.cons_ne_nil _ _)
    rw [List.getLast?_cons_cons] at ends
    rw [after]
    exact List.mem_of_getLast? ends

/-- The active feature and the planned ones after it. -/
def Session.due (s : Session) : List Feature :=
  match s.flow with
  | some flow => flow.feature :: s.ahead
  | none => []

namespace Tour

variable {t : Tour} {f : Feature} {action : Action}

@[simp] theorem perform_completeFeature (t : Tour) : t.perform .completeFeature = t := rfl

@[simp] theorem perform_registry (t : Tour) (action : Action) :
    (t.perform action).registry = t.registry := by
  cases action with
  | handleResume => unfold perform; dsimp only; split <;> rfl
  | _ => rfl

@[simp] theorem perform_tutorial (t : Tour) (action : Action) :
    (t.perform action).session.tutorial = t.session.tutorial := by
  cases action with
  | handleResume => unfold perform; dsimp only; split <;> rfl
  | _ => rfl

@[simp] theorem perform_completed (t : Tour) (action : Action) :
    (t.perform action).session.completed = t.session.completed := by
  cases action with
  | handleResume => unfold perform; dsimp only; split <;> rfl
  | _ => rfl

/-- The flow and the plan are kept together or dropped together. -/
theorem perform_features (t : Tour) (action : Action) :
    ((t.perform action).session.flow = t.session.flow ∧
        (t.perform action).session.plan = t.session.plan) ∨
      ((t.perform action).session.flow = none ∧ (t.perform action).session.plan = []) := by
  cases action with
  | handleDismissed => exact .inr ⟨rfl, rfl⟩
  | clearFeatureData => exact .inr ⟨rfl, rfl⟩
  | handleResume => left; unfold perform; dsimp only; split <;> exact ⟨rfl, rfl⟩
  | _ => exact .inl ⟨rfl, rfl⟩

theorem flow_of_perform {flow : Flow} (h : (t.perform action).session.flow = some flow) :
    t.session.flow = some flow ∧ (t.perform action).session.plan = t.session.plan := by
  obtain ⟨hf, hp⟩ | ⟨hf, hp⟩ := t.perform_features action
  · exact ⟨hf ▸ h, hp⟩
  · rw [hf] at h
    cases h

theorem params_of_perform {flow : Flow}
    (h : (t.perform action).session.flow = some flow) :
    (t.perform action).session.params = t.session.params := by
  cases action with
  | handleDismissed => cases h
  | clearFeatureData => cases h
  | handleResume => unfold perform; dsimp only; split <;> rfl
  | _ => rfl

theorem plan_nodup_perform (h : t.session.plan.Nodup) :
    (t.perform action).session.plan.Nodup := by
  obtain ⟨hf, hp⟩ | ⟨hf, hp⟩ := t.perform_features action
  · rw [hp]
    exact h
  · rw [hp]
    exact List.nodup_nil

theorem flow_none_perform (h : t.session.flow = none) :
    (t.perform action).session.flow = none := by
  obtain ⟨hf, hp⟩ | ⟨hf, hp⟩ := t.perform_features action
  · rw [hf, h]
  · exact hf

@[simp] theorem begin_flow (t : Tour) (f : Feature) : (t.begin f).session.flow =
    some ⟨f, (t.registry.flow f).initial, [(t.registry.flow f).initial]⟩ := rfl

@[simp] theorem begin_plan (t : Tour) (f : Feature) :
    (t.begin f).session.plan = t.session.plan := rfl

@[simp] theorem begin_tutorial (t : Tour) (f : Feature) :
    (t.begin f).session.tutorial = t.session.tutorial := rfl

@[simp] theorem begin_registry (t : Tour) (f : Feature) : (t.begin f).registry = t.registry := rfl

@[simp] theorem markCompleted_registry (t : Tour) (f : Feature) :
    (t.markCompleted f).registry = t.registry := rfl

@[simp] theorem markCompleted_plan (t : Tour) (f : Feature) :
    (t.markCompleted f).session.plan = t.session.plan := rfl

@[simp] theorem markCompleted_tutorial (t : Tour) (f : Feature) :
    (t.markCompleted f).session.tutorial = t.session.tutorial := rfl

@[simp] theorem finish_flow (t : Tour) : t.finish.1.session.flow = none := rfl

@[simp] theorem finish_plan (t : Tour) : t.finish.1.session.plan = t.session.plan := rfl

@[simp] theorem finish_registry (t : Tour) : t.finish.1.registry = t.registry := rfl

@[simp] theorem finish_completed (t : Tour) :
    t.finish.1.session.completed = t.session.completed := rfl

theorem finish_tutorial (t : Tour) : t.finish.1.session.tutorial =
    (t.registry.tutorial.transition t.session.tutorial "DONE" {}).state := rfl

theorem ahead_of_flow {flow : Flow} (h : t.session.flow = some flow) :
    t.session.ahead = featuresAfter flow.feature t.session.plan := by
  unfold Session.ahead
  rw [h]

theorem due_of_flow {flow : Flow} (h : t.session.flow = some flow) :
    t.session.due = flow.feature :: t.session.ahead := by
  unfold Session.due
  rw [h]

theorem due_of_none (h : t.session.flow = none) : t.session.due = [] := by
  unfold Session.due
  rw [h]

/-- What is due is kept together with the plan, or dropped together with it. -/
theorem due_perform (t : Tour) (action : Action) :
    ((t.perform action).session.due = t.session.due ∧
        (t.perform action).session.plan = t.session.plan) ∨
      ((t.perform action).session.due = [] ∧ (t.perform action).session.plan = []) := by
  obtain ⟨hf, hp⟩ | ⟨hf, hp⟩ := t.perform_features action
  · left
    simp [Session.due, Session.ahead, hf, hp]
  · exact .inr ⟨due_of_none hf, hp⟩

theorem due_next {flow : Flow} {next : Feature} {ahead : List Feature}
    (hf : t.session.flow = some flow) (nodup : t.session.plan.Nodup)
    (ha : t.session.ahead = next :: ahead) :
    ((t.markCompleted flow.feature).begin next).session.due = next :: ahead := by
  rw [ahead_of_flow hf] at ha
  rw [due_of_flow (begin_flow _ _), ahead_of_flow (begin_flow _ _)]
  simp only [begin_plan, markCompleted_plan, (featuresAfter_of_cons nodup ha).2]

/-- A property of a tour, with the actions that it still has to perform, that each single
step keeps. -/
structure Carried (I : List Action → Tour → Prop) : Prop where
  /-- A completion without a flow. -/
  skip : ∀ {rest t}, t.session.flow = none → I (.completeFeature :: rest) t → I rest t
  /-- An action that is no completion. -/
  act : ∀ {action rest t}, action ≠ .completeFeature → I (action :: rest) t →
    I rest (t.perform action)
  /-- The completion of a flow that another planned one follows. -/
  next : ∀ {flow next ahead rest t}, t.session.flow = some flow →
    t.session.plan.Nodup → t.session.ahead = next :: ahead → I (.completeFeature :: rest) t →
    I (beginActions t.registry next ++ rest) ((t.markCompleted flow.feature).begin next)
  /-- The completion of the last planned flow. -/
  last : ∀ {flow rest t}, t.session.flow = some flow → t.session.ahead = [] →
    I (.completeFeature :: rest) t →
    I ((t.markCompleted flow.feature).finish.2 ++ rest) (t.markCompleted flow.feature).finish.1

namespace Carried

variable {I : List Action → Tour → Prop} {actions : List Action}

/-- The plan lists nothing twice, and `ahead` is what it lists after the active flow. -/
def Planned (ahead : List Feature) (t : Tour) : Prop :=
  t.session.plan.Nodup ∧ ∀ flow, t.session.flow = some flow → t.session.ahead = ahead

theorem planned_perform {ahead : List Feature} (h : Planned ahead t) :
    Planned ahead (t.perform action) := by
  refine ⟨plan_nodup_perform h.1, fun flow hf => ?_⟩
  obtain ⟨before, plan⟩ := flow_of_perform hf
  rw [ahead_of_flow hf, plan, ← ahead_of_flow before]
  exact h.2 flow before

theorem planned_begin {next : Feature} {ahead : List Feature} {flow : Flow}
    (h : Planned (next :: ahead) t) (hf : t.session.flow = some flow) :
    Planned ahead ((t.markCompleted flow.feature).begin next) := by
  refine ⟨h.1, fun begun hb => ?_⟩
  have due := due_next hf h.1 (h.2 flow hf)
  rw [due_of_flow hb] at due
  exact (List.cons.inj due).2

/-- Without a flow every completion is passed over. -/
theorem foldl_perform (carried : Carried I) (hf : t.session.flow = none) (h : I actions t) :
    I [] (actions.foldl perform t) := by
  induction actions generalizing t with
  | nil => exact h
  | cons action rest ih =>
    rw [List.foldl_cons]
    refine ih (flow_none_perform hf) ?_
    by_cases ha : action = .completeFeature
    · subst ha
      exact carried.skip hf h
    · exact carried.act ha h

theorem performUntil_cons {onComplete : Flow → List Action → Tour → Tour} {rest : List Action}
    (h : action ≠ .completeFeature) : performUntil onComplete (action :: rest) t =
      performUntil onComplete rest (t.perform action) := by
  cases action with
  | completeFeature => exact absurd rfl h
  | _ => rfl

/-- Up to the first completion of a flow, and from there on as `onComplete` goes on. -/
theorem performUntil (carried : Carried I) {ahead : List Feature}
    {onComplete : Flow → List Action → Tour → Tour}
    (goesOn : ∀ flow rest t, Planned ahead t → t.session.flow = some flow →
      I (.completeFeature :: rest) t → I [] (onComplete flow rest t))
    (planned : Planned ahead t) (h : I actions t) :
    I [] (Tour.performUntil onComplete actions t) := by
  induction actions generalizing t with
  | nil => exact h
  | cons action rest ih =>
    by_cases ha : action = .completeFeature
    · subst ha
      cases hf : t.session.flow with
      | none =>
        simp only [Tour.performUntil, hf]
        exact ih planned (carried.skip hf h)
      | some flow =>
        simp only [Tour.performUntil, hf]
        exact goesOn flow rest t planned hf h
    · rw [performUntil_cons ha]
      exact ih (planned_perform planned) (carried.act ha h)

-- The induction is on the features ahead: each completion of a flow uses up the first.
theorem settle (carried : Carried I) (ahead : List Feature) (planned : Planned ahead t)
    (h : I actions t) : I [] (Tour.settle ahead actions t) := by
  induction ahead generalizing actions t with
  | nil =>
    unfold Tour.settle
    refine carried.performUntil (fun flow rest t planned hf h => ?_) planned h
    exact carried.foldl_perform (finish_flow _) (carried.last hf (planned.2 flow hf) h)
  | cons next ahead ih =>
    unfold Tour.settle
    refine carried.performUntil (fun flow rest t planned hf h => ?_) planned h
    exact ih (planned_begin planned hf) (carried.next hf planned.1 (planned.2 flow hf) h)

/-- What each step keeps is kept by all actions, whatever flows they complete and begin. -/
theorem performAll (carried : Carried I) (nodup : t.session.plan.Nodup) (h : I actions t) :
    I [] (t.performAll actions) :=
  carried.settle _ ⟨nodup, fun _ _ => rfl⟩ h

end Carried

end Tour

end GuidedTour
