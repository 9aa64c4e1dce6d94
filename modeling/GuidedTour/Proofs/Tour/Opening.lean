import GuidedTour.Proofs.Tour.Performing

/-! What an operation comes to. It opens with a change of its own and leaves actions to be
performed; after a selection the tutorial may have to be sent `CONTINUE`, which opens in
turn. What every opening keeps, and every action after it, holds after every run. -/
namespace GuidedTour

namespace Flow

def begun (r : Registry) (f : Feature) : Flow :=
  ⟨f, (r.flow f).initial, [(r.flow f).initial]⟩

/-- The flow's answer to an event. -/
def answer (r : Registry) (flow : Flow) (event : String) (params : FlowParams) : Outcome :=
  (r.flow flow.feature).transition flow.state event ⟨some params, flow.history⟩

/-- The flow moved to the state of an answer, with the visit recorded. -/
def moved (r : Registry) (flow : Flow) (event : String) (outcome : Outcome) : Flow :=
  { flow with
    state := outcome.state
    history := Tour.recordVisit event outcome.state
      ((r.flow flow.feature).isTerminal outcome.state) flow.history }

end Flow

namespace Registry

variable (r : Registry)

/-- Everything that one of the machines may ask for. -/
def actions : List Action := r.machines.flatMap Machine.actions

theorem actions_of_machine {m : Machine} (mem : m ∈ r.machines) : m.actions ⊆ r.actions :=
  fun _ asked => List.mem_flatMap.2 ⟨m, mem, asked⟩

theorem actions_of_tutorial : r.tutorial.actions ⊆ r.actions :=
  r.actions_of_machine List.mem_cons_self

theorem actions_of_flow (f : Feature) : (r.flow f).actions ⊆ r.actions :=
  r.actions_of_machine (List.mem_cons_of_mem _ (List.mem_map_of_mem (Feature.mem_all f)))

theorem asked_entry : r.tutorial.entryActions r.tutorial.initial ⊆ r.actions :=
  List.Subset.trans (Machine.actions_of_entry _) r.actions_of_tutorial

theorem asked_begin (f : Feature) : Tour.beginActions r f ⊆ r.actions :=
  List.Subset.trans (Machine.actions_of_entry _) (r.actions_of_flow f)

end Registry

theorem Flow.asked_answer (r : Registry) (flow : Flow) (event : String) (params : FlowParams) :
    (flow.answer r event params).actions ⊆ r.actions :=
  List.Subset.trans (Machine.actions_of_transition _ _ _ _) (r.actions_of_flow flow.feature)

namespace Tour

variable {t : Tour}

/-- A tour over the same registry, before the first screen is entered. -/
def anew (t : Tour) : Tour := ⟨t.registry, .fresh t.registry, []⟩

def tutorialMoved (t : Tour) (event : String) : Tour :=
  { t with session.tutorial := (t.tutorialOutcome event).state }

theorem asked_tutorialOutcome (t : Tour) (event : String) :
    (t.tutorialOutcome event).actions ⊆ t.registry.actions :=
  List.Subset.trans (Machine.actions_of_transition _ _ _ _) t.registry.actions_of_tutorial

def flowMoved (t : Tour) (flow : Flow) (event : String) (params : FlowParams) : Tour :=
  { t with
    session.params := params
    session.flow := some (flow.moved t.registry event (flow.answer t.registry event params)) }

def planned (t : Tour) (first : Feature) (rest : List Feature) : Tour :=
  { t with session.plan := first :: rest }.begin first

def cleared (t : Tour) : Tour := { t with session := t.session.clearFeatures }

theorem due_flowMoved {flow : Flow} {event : String} {params : FlowParams}
    (hf : t.session.flow = some flow) :
    (t.flowMoved flow event params).session.due = t.session.due := by
  rw [due_of_flow hf, ahead_of_flow hf]
  rfl

theorem due_planned (t : Tour) (first : Feature) (rest : List Feature) :
    (t.planned first rest).session.due = first :: rest := by
  simp [planned, Session.due, Session.ahead, featuresAfter]

def openTutorial (t : Tour) (claim : Option String) (event : String) : List Action × Tour :=
  if claim.getD t.session.tutorial = t.session.tutorial ∧
      (t.tutorialOutcome event).handled = true then
    ((t.tutorialOutcome event).actions, t.tutorialMoved event)
  else ([], t)

def openFlow (t : Tour) (claim : Option String) (event : String) (given : Option FlowParams) :
    List Action × Tour :=
  match t.session.flow with
  | none => ([], t)
  | some flow =>
    let params := given.getD t.session.params
    if t.session.isActive = true ∧ claim.getD flow.state = flow.state ∧
        (flow.answer t.registry event params).handled = true then
      ((flow.answer t.registry event params).actions, t.flowMoved flow event params)
    else ([], t)

def openSelect (t : Tour) : List Feature → List Action × Tour
  | [] => ([], t.cleared)
  | first :: rest => (beginActions t.registry first, t.planned first rest)

/-- The actions that an operation leaves to be performed, and the tour that performs them. -/
def opening (t : Tour) : Operation → List Action × Tour
  | .tutorial claim event => t.openTutorial claim event
  | .flow claim event given => t.openFlow claim event given
  | .select features => t.openSelect (Feature.distinct features)
  | .observe route => ([], t.observe route)
  | .dismiss => t.openTutorial none "DISMISS"
  | .restart => t.anew.openTutorial none "AUTH"
  | .reset => (t.registry.tutorial.entryActions t.registry.tutorial.initial, t.anew)

/-- The tour once the actions are performed that an operation opened with. -/
def opened (t : Tour) (op : Operation) : Tour := (t.opening op).2.performAll (t.opening op).1

/-- A plan was selected, and the tutorial waits for it. -/
def Continues (t : Tour) : Operation → Prop
  | .select features => features ≠ [] ∧ t.session.tutorial = "active.select"
  | _ => False

instance (t : Tour) : DecidablePred t.Continues
  | .select _ => inferInstanceAs (Decidable (_ ∧ _))
  | .tutorial .. | .flow .. | .observe _ | .dismiss | .restart | .reset => .isFalse id

@[simp] theorem performAll_nil (t : Tour) : t.performAll [] = t := by
  unfold performAll
  cases t.session.ahead <;> rfl

theorem tutorialFrom_eq (t : Tour) (claim : Option String) (event : String) :
    (t.tutorialFrom (claim.getD t.session.tutorial) event).2 =
      t.opened (.tutorial claim event) := by
  unfold tutorialFrom opened
  simp only [opening, openTutorial]
  by_cases hc : claim.getD t.session.tutorial = t.session.tutorial
  · by_cases hh : (t.tutorialOutcome event).handled = true <;> simp [hc, hh, tutorialMoved]
  · simp [hc]

theorem flowFrom_eq (claim : Option String) (event : String) (given : Option FlowParams)
    {flow : Flow} (hf : t.session.flow = some flow) :
    (t.flowFrom (claim.getD flow.state) event given).2 = t.opened (.flow claim event given) := by
  have ha : t.flowOutcome flow event (given.getD t.session.params) =
      flow.answer t.registry event (given.getD t.session.params) := rfl
  unfold flowFrom opened
  simp only [opening, openFlow, hf, ha]
  by_cases hc : claim.getD flow.state = flow.state
  · by_cases hs : t.session.isActive = true
    · by_cases hh : (flow.answer t.registry event (given.getD t.session.params)).handled = true <;>
        simp [hc, hs, hh, flowMoved, Flow.moved]
    · simp [hc, hs]
  · simp [hc]

theorem opened_flow_of_none (claim : Option String) (event : String)
    (given : Option FlowParams) (hf : t.session.flow = none) :
    t.opened (.flow claim event given) = t := by
  unfold opened
  simp [opening, openFlow, hf]

theorem select_eq (t : Tour) (features : List Feature) : t.select features =
    if (t.opened (.select features)).Continues (.select features) then
      (t.opened (.select features)).opened (.tutorial none "CONTINUE")
    else t.opened (.select features) := by
  cases features with
  | nil =>
    simp only [Continues, ne_eq, not_true_eq_false, false_and, if_false]
    simp [select, opened, opening, openSelect, Feature.distinct, cleared]
  | cons first rest =>
    have hd : Feature.distinct (first :: rest) =
        first :: (Feature.distinct rest).filter (· ≠ first) := rfl
    have ho : (t.planned first ((Feature.distinct rest).filter (· ≠ first))).performAll
        (beginActions t.registry first) = t.opened (.select (first :: rest)) := by
      unfold opened
      simp only [opening, hd, openSelect]
    unfold select
    simp only [hd, Continues, ne_eq, reduceCtorEq, not_false_eq_true, true_and]
    rw [← tutorialFrom_eq, ← ho]
    rfl

/-- An operation performs what it opened with, and after a selection may open once more. -/
theorem step_eq (t : Tour) (op : Operation) : (t.step op).2 =
    if (t.opened op).Continues op then (t.opened op).opened (.tutorial none "CONTINUE")
    else t.opened op := by
  cases op with
  | tutorial claim event =>
    cases claim with
    | none => exact t.tutorialFrom_eq none event
    | some state => exact t.tutorialFrom_eq (some state) event
  | flow claim event given =>
    change _ = t.opened (.flow claim event given)
    cases hf : t.session.flow with
    | none =>
      rw [opened_flow_of_none claim event given hf]
      cases claim <;> simp [step, Tour.flow, flowFrom, hf]
    | some flow =>
      rw [← flowFrom_eq claim event given hf]
      cases claim <;> simp [step, Tour.flow, hf]
  | select features => exact t.select_eq features
  | observe route => exact (performAll_nil _).symm
  | dismiss => exact t.tutorialFrom_eq none "DISMISS"
  | restart => exact t.anew.tutorialFrom_eq none "AUTH"
  | reset => rfl

theorem openTutorial_induction {I : List Action → Tour → Prop} (claim : Option String)
    (event : String) (stays : I [] t)
    (moves : (t.tutorialOutcome event).handled = true →
      I (t.tutorialOutcome event).actions (t.tutorialMoved event)) :
    I (t.openTutorial claim event).1 (t.openTutorial claim event).2 := by
  unfold openTutorial
  split
  · rename_i taken
    exact moves taken.2
  · exact stays

/-- A property of a tour, with the actions that it still has to perform, that the performing
of actions keeps and every operation opens with. -/
structure Kept (I : List Action → Tour → Prop) : Prop extends Carried I where
  nodup : ∀ {actions t}, I actions t → t.session.plan.Nodup
  tutorial : ∀ {t event}, I [] t → (t.tutorialOutcome event).handled = true →
    I (t.tutorialOutcome event).actions (t.tutorialMoved event)
  flow : ∀ {t flow event params}, I [] t → t.session.flow = some flow →
    t.session.isActive = true → (flow.answer t.registry event params).handled = true →
    I (flow.answer t.registry event params).actions (t.flowMoved flow event params)
  select : ∀ {t first rest}, I [] t → (first :: rest).Nodup →
    I (beginActions t.registry first) (t.planned first rest)
  clear : ∀ {t}, I [] t → I [] t.cleared
  observe : ∀ {t route}, I [] t → I [] (t.observe route)
  restart : ∀ {t}, I [] t →
    I (t.anew.openTutorial none "AUTH").1 (t.anew.openTutorial none "AUTH").2
  reset : ∀ {t}, I [] t →
    I (t.registry.tutorial.entryActions t.registry.tutorial.initial) t.anew

namespace Kept

variable {I : List Action → Tour → Prop}

theorem openTutorial (kept : Kept I) (h : I [] t) (claim : Option String) (event : String) :
    I (t.openTutorial claim event).1 (t.openTutorial claim event).2 :=
  openTutorial_induction claim event h (kept.tutorial h)

theorem openFlow (kept : Kept I) (h : I [] t) (claim : Option String) (event : String)
    (given : Option FlowParams) :
    I (t.openFlow claim event given).1 (t.openFlow claim event given).2 := by
  unfold Tour.openFlow
  cases hf : t.session.flow with
  | none => exact h
  | some flow =>
    dsimp only
    split
    · rename_i taken
      exact kept.flow h hf taken.1 taken.2.2
    · exact h

theorem opening (kept : Kept I) (h : I [] t) (op : Operation) :
    I (t.opening op).1 (t.opening op).2 := by
  cases op with
  | tutorial claim event => exact kept.openTutorial h claim event
  | flow claim event given => exact kept.openFlow h claim event given
  | select features =>
    have nodup := Feature.distinct_nodup features
    simp only [Tour.opening]
    cases hd : Feature.distinct features with
    | nil => exact kept.clear h
    | cons first rest =>
      rw [hd] at nodup
      exact kept.select h nodup
  | observe route => exact kept.observe h
  | dismiss => exact kept.openTutorial h none "DISMISS"
  | restart => exact kept.restart h
  | reset => exact kept.reset h

theorem opened (kept : Kept I) (h : I [] t) (op : Operation) : I [] (t.opened op) := by
  have ho := kept.opening h op
  exact kept.performAll (kept.nodup ho) ho

theorem step (kept : Kept I) (h : I [] t) (op : Operation) : I [] (t.step op).2 := by
  rw [step_eq]
  split
  · exact kept.opened (kept.opened h op) _
  · exact kept.opened h op

theorem run (kept : Kept I) (h : I [] t) (ops : List Operation) : I [] (t.run ops) := by
  induction ops generalizing t with
  | nil => exact h
  | cons op ops ih => exact ih (kept.step h op)

end Kept

theorem kept_nodup : Kept fun _ t => t.session.plan.Nodup where
  skip _ h := h
  act _ h := plan_nodup_perform h
  next _ _ _ h := h
  last _ _ h := h
  nodup h := h
  tutorial h _ := h
  flow h _ _ _ := h
  select _ nodup := nodup
  clear _ := List.nodup_nil
  observe h := h
  restart _ :=
    openTutorial_induction (I := fun _ t => t.session.plan.Nodup) none "AUTH"
      List.nodup_nil fun _ => List.nodup_nil
  reset _ := List.nodup_nil

end Tour

end GuidedTour
