import GuidedTour.Proofs.Tour.Soundness

/-! Steering a tour. Actions that neither complete the active flow nor drop it leave the
flow and the tutorial where they are. An event with no other actions does what its machine
says and nothing more, so a run can be led along chosen states. -/
namespace GuidedTour

/-- Neither completes the active flow nor drops it. -/
def Action.isCalm : Action → Bool
  | completeFeature | handleDismissed | clearFeatureData => false
  | _ => true

/-- The event was handled, and all its actions are calm. -/
def Outcome.IsCalm (outcome : Outcome) : Prop :=
  outcome.handled = true ∧ ∀ action ∈ outcome.actions, action.isCalm = true

instance (outcome : Outcome) : Decidable outcome.IsCalm := inferInstanceAs (Decidable (_ ∧ _))

namespace Tour

variable {r : Registry} {t next last : Tour} {tutorial : String} {flow : Flow}
  {actions : List Action}

/-- A run without a fresh start leads from one tour to the other. -/
def Leads (t next : Tour) : Prop :=
  ∃ ops : List Operation, (∀ op ∈ ops, op ≠ .restart ∧ op ≠ .reset) ∧ t.run ops = next

theorem Leads.refl (t : Tour) : t.Leads t := ⟨[], by simp, rfl⟩

theorem Leads.trans (left : t.Leads next) (right : next.Leads last) : t.Leads last := by
  obtain ⟨before, carries, rfl⟩ := left
  obtain ⟨after, carriesOn, rfl⟩ := right
  refine ⟨before ++ after, fun op mem => ?_, run_append _ _ _⟩
  obtain mem | mem := List.mem_append.1 mem
  · exact carries op mem
  · exact carriesOn op mem

theorem leads_step {op : Operation} (h : op ≠ .restart ∧ op ≠ .reset) :
    t.Leads (t.step op).2 :=
  ⟨[op], by simpa using h, rfl⟩

/-- A tour with a given state of the tutorial and a given active flow. -/
structure At (r : Registry) (tutorial : String) (flow : Flow) (t : Tour) : Prop where
  registry : t.registry = r
  tutorial : t.session.tutorial = tutorial
  plan : t.session.plan.Nodup
  flow : t.session.flow = some flow

theorem flow_perform_of_isCalm {action : Action} (h : action.isCalm = true) :
    (t.perform action).session.flow = t.session.flow := by
  obtain same | ⟨none, -⟩ := t.perform_features action
  · exact same.1
  · cases action with
    | completeFeature => rfl
    | handleDismissed => cases h
    | clearFeatureData => cases h
    | handleResume => unfold perform; dsimp only; split <;> rfl
    | _ => rfl

theorem carried_at : Carried fun actions t =>
    (∀ action ∈ actions, action.isCalm = true) ∧ At r tutorial flow t where
  skip hf h := by
    rw [h.2.flow] at hf
    cases hf
  act _ h := by
    refine ⟨fun action mem => h.1 action (List.mem_cons_of_mem _ mem), ?_⟩
    refine ⟨by rw [perform_registry, h.2.registry], by rw [perform_tutorial, h.2.tutorial],
      plan_nodup_perform h.2.plan, ?_⟩
    rw [flow_perform_of_isCalm (h.1 _ List.mem_cons_self), h.2.flow]
  next _ _ _ h := by
    cases h.1 _ List.mem_cons_self
  last _ _ h := by
    cases h.1 _ List.mem_cons_self

theorem At.performAll (h : At r tutorial flow t)
    (calm : ∀ action ∈ actions, action.isCalm = true) :
    At r tutorial flow (t.performAll actions) :=
  (carried_at.performAll h.plan ⟨calm, h⟩).2

/-- A calm event of the tutorial moves the tutorial alone. -/
theorem At.sendTutorial (h : At r tutorial flow t) {event : String}
    (calm : (r.tutorial.transition tutorial event {}).IsCalm) :
    ∃ next, t.Leads next ∧
      At r (r.tutorial.transition tutorial event {}).state flow next := by
  refine ⟨(t.step (.tutorial none event)).2, leads_step (by simp), ?_⟩
  have answer : t.tutorialOutcome event = r.tutorial.transition tutorial event {} := by
    rw [← h.registry, ← h.tutorial]
    rfl
  simp only [step, Tour.tutorial, tutorialFrom, ne_eq, not_true_eq_false, if_false, answer,
    calm.1, if_true]
  exact At.performAll ⟨h.registry, rfl, h.plan, h.flow⟩ calm.2

/-- A calm event of the flow moves the flow alone. -/
theorem At.sendFlow (h : At r tutorial flow t) (active : t.session.isActive = true)
    {event : String} {params : FlowParams} (calm : (flow.answer r event params).IsCalm) :
    ∃ next, t.Leads next ∧
      At r tutorial (flow.moved r event (flow.answer r event params)) next := by
  refine ⟨(t.step (.flow none event (some params))).2, leads_step (by simp), ?_⟩
  have answer : t.flowOutcome flow event params = flow.answer r event params := by
    rw [← h.registry]
    rfl
  simp only [step, Tour.flow, flowFrom, h.flow, active, Bool.not_true, Bool.false_or, ne_eq,
    not_true_eq_false, decide_false, Bool.false_eq_true, if_false, Option.getD_some, answer,
    calm.1, if_true]
  refine At.performAll ⟨h.registry, h.tutorial, h.plan, ?_⟩ calm.2
  rw [h.registry]
  rfl

end Tour

end GuidedTour
