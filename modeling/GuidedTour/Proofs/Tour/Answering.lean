import GuidedTour.Proofs.Tour.Builtin

/-! What an event is answered. An event that is not taken is answered as unhandled, and leaves the
tour as it was. One that is taken is answered by the machine that it is for, and the actions of
this answer are performed: those of the tutorial one after the other, those of a flow up to the
completion that may stand in their place. -/
namespace GuidedTour

/-- An answer leads to the end of a flow if it completes the flow and asks for nothing else. -/
theorem Registry.completes_iff (f : Feature) : ∀ move ∈ (builtin.flow f).moves,
    (move.answer.state = "complete" ↔ move.answer.actions = [.completeFeature]) := by
  cases f <;> decide +kernel

namespace Tour

variable {t : Tour}

theorem tutorialFrom_ignores {claim event : String}
    (h : ¬(claim = t.session.tutorial ∧ (t.tutorialOutcome event).handled = true)) :
    t.tutorialFrom claim event = (.unhandled claim, t) := by
  by_cases same : claim = t.session.tutorial
  · rw [not_and, Bool.not_eq_true] at h
    exact tutorialFrom_of_unhandled claim (h same)
  · exact if_pos same

theorem handled_tutorialFrom_iff {claim event : String} :
    (t.tutorialFrom claim event).1.handled = true ↔
      claim = t.session.tutorial ∧ (t.tutorialOutcome event).handled = true := by
  by_cases taken : claim = t.session.tutorial ∧ (t.tutorialOutcome event).handled = true
  · refine iff_of_true ?_ taken
    rw [taken.1]
    change (t.tutorial event).1.handled = true
    rw [tutorial_fst, taken.2]
  · refine iff_of_false ?_ taken
    rw [tutorialFrom_ignores taken]
    exact Bool.false_ne_true

theorem tutorialFrom_cases (registry : t.registry = .builtin) (claim event : String) :
    t.tutorialFrom claim event = (.unhandled claim, t) ∨
      (t.tutorialOutcome event).handled = true ∧
        t.tutorialFrom claim event = (t.tutorialOutcome event,
          (t.tutorialOutcome event).actions.foldl perform (t.tutorialMoved event)) := by
  by_cases taken : claim = t.session.tutorial ∧ (t.tutorialOutcome event).handled = true
  · rw [taken.1]
    exact .inr ⟨taken.2, Prod.ext (t.tutorial_fst event) (tutorial_snd registry event)⟩
  · exact .inl (tutorialFrom_ignores taken)

/-- An event for the tutorial is not taken, or the tutorial moves and performs its answer. -/
theorem step_tutorial_cases (registry : t.registry = .builtin) (claim : Option String)
    (event : String) :
    (∃ state, t.step (.tutorial claim event) = (some (.unhandled state), t)) ∨
      (t.tutorialOutcome event).handled = true ∧
        t.step (.tutorial claim event) = (some (t.tutorialOutcome event),
          (t.tutorialOutcome event).actions.foldl perform (t.tutorialMoved event)) := by
  have sent : t.step (.tutorial claim event) =
      (t.tutorialFrom (claim.getD t.session.tutorial) event).map some id := by
    cases claim <;> rfl
  rw [sent]
  obtain not | ⟨handled, taken⟩ := tutorialFrom_cases registry (claim.getD t.session.tutorial) event
  · exact .inl ⟨_, congrArg (Prod.map some id) not⟩
  · exact .inr ⟨handled, congrArg (Prod.map some id) taken⟩

variable {flow : Flow}

/-- The answer to a flow event that is claimed rightly, taken or not. -/
theorem flowFrom_claimed (hf : t.session.flow = some flow) (active : t.session.isActive = true)
    (event : String) (given : Option FlowParams) :
    let answer := flow.answer t.registry event (given.getD t.session.params)
    t.flowFrom flow.state event given = (answer,
      if answer.handled then
        (t.flowMoved flow event (given.getD t.session.params)).performAll answer.actions
      else t) := by
  intro answer
  have same : t.flowOutcome flow event (given.getD t.session.params) = answer := rfl
  unfold flowFrom
  simp only [hf, active, Bool.not_true, Bool.false_or, ne_eq, not_true_eq_false, decide_false,
    Bool.false_eq_true, if_false, same]
  split <;> rfl

theorem flow_fst (hf : t.session.flow = some flow) (active : t.session.isActive = true)
    (event : String) : (t.flow event none).1 = flow.answer t.registry event t.session.params := by
  unfold Tour.flow
  rw [hf]
  exact congrArg Prod.fst (flowFrom_claimed hf active event none)

/-- The flow is active and lets the event in, which claims it rightly, and has an answer to it. -/
structure Listens (t : Tour) (claim event : String) (given : Option FlowParams) (flow : Flow) :
    Prop where
  running : t.session.flow = some flow
  active : t.session.isActive = true
  claimed : claim = flow.state
  handled : (flow.answer t.registry event (given.getD t.session.params)).handled = true

theorem flowFrom_ignores {claim event : String} {given : Option FlowParams}
    (h : ∀ flow, ¬t.Listens claim event given flow) :
    t.flowFrom claim event given = (.unhandled claim, t) := by
  cases hf : t.session.flow with
  | none =>
    unfold flowFrom
    rw [hf]
  | some flow =>
    by_cases claimed : t.session.isActive = true ∧ claim = flow.state
    · obtain ⟨active, rfl⟩ := claimed
      have answered := flowFrom_claimed hf active event given
      dsimp only at answered
      cases handled : (flow.answer t.registry event (given.getD t.session.params)).handled with
      | true => exact absurd ⟨hf, active, rfl, handled⟩ (h flow)
      | false =>
        have stays : flow.answer t.registry event (given.getD t.session.params) =
            .unhandled flow.state := Machine.transition_unhandled handled
        rw [answered, stays]
        rfl
    · unfold flowFrom
      rw [hf]
      rw [not_and_or, Bool.not_eq_true] at claimed
      exact if_pos (by simpa using claimed)

theorem handled_flowFrom_iff {claim event : String} {given : Option FlowParams} :
    (t.flowFrom claim event given).1.handled = true ↔ ∃ flow, t.Listens claim event given flow := by
  by_cases taken : ∃ flow, t.Listens claim event given flow
  · refine iff_of_true ?_ taken
    obtain ⟨flow, hf, active, rfl, handled⟩ := taken
    rw [flowFrom_claimed hf active]
    exact handled
  · refine iff_of_false ?_ taken
    rw [flowFrom_ignores (not_exists.1 taken)]
    exact Bool.false_ne_true

theorem flowFrom_cases (registry : t.registry = .builtin) (nodup : t.session.plan.Nodup)
    (claim event : String) (given : Option FlowParams) :
    t.flowFrom claim event given = (.unhandled claim, t) ∨
      ∃ flow next, t.session.flow = some flow ∧ t.session.isActive = true ∧
        claim = flow.state ∧
        (flow.answer t.registry event (given.getD t.session.params)).handled = true ∧
        t.flowFrom claim event given =
          (flow.answer t.registry event (given.getD t.session.params), next) ∧
        t.Taken flow event (given.getD t.session.params) next := by
  by_cases taken : ∃ flow, t.Listens claim event given flow
  · obtain ⟨flow, hf, active, rfl, handled⟩ := taken
    have answered := flowFrom_claimed hf active event given
    dsimp only at answered
    rw [handled, if_pos rfl] at answered
    exact .inr ⟨flow, _, hf, active, rfl, handled, answered,
      taken_of_handled registry nodup hf handled⟩
  · exact .inl (flowFrom_ignores (not_exists.1 taken))

theorem step_flow_of_none (hf : t.session.flow = none) (claim : Option String) (event : String)
    (given : Option FlowParams) :
    ∃ state, t.step (.flow claim event given) = (some (.unhandled state), t) := by
  cases claim <;> simp [step, Tour.flow, flowFrom, hf]

theorem step_flow_of_some (hf : t.session.flow = some flow) (claim : Option String)
    (event : String) (given : Option FlowParams) : t.step (.flow claim event given) =
      (t.flowFrom (claim.getD flow.state) event given).map some id := by
  cases claim with
  | none => simp only [step, Tour.flow, hf, Option.getD_none]
  | some state => rfl

/-- An event for a flow is not taken, or its answer comes with what the event comes to. -/
theorem step_flow_cases (registry : t.registry = .builtin) (nodup : t.session.plan.Nodup)
    (claim : Option String) (event : String) (given : Option FlowParams) :
    (∃ state, t.step (.flow claim event given) = (some (.unhandled state), t)) ∨
      ∃ flow next, t.session.flow = some flow ∧ t.session.isActive = true ∧
        claim.getD flow.state = flow.state ∧
        (flow.answer t.registry event (given.getD t.session.params)).handled = true ∧
        t.step (.flow claim event given) =
          (some (flow.answer t.registry event (given.getD t.session.params)), next) ∧
        t.Taken flow event (given.getD t.session.params) next := by
  cases hf : t.session.flow with
  | none => exact .inl (step_flow_of_none hf claim event given)
  | some flow =>
    rw [step_flow_of_some hf]
    obtain not | ⟨flow', next, hf', active, claimed, handled, answered, taken⟩ :=
      flowFrom_cases registry nodup (claim.getD flow.state) event given
    · exact .inl ⟨_, congrArg (Prod.map some id) not⟩
    · obtain rfl := Option.some.inj (hf.symm.trans hf')
      exact .inr ⟨flow, next, rfl, active, claimed, handled,
        congrArg (Prod.map some id) answered, taken⟩

end Tour

end GuidedTour
