import GuidedTour.Proofs.Tour.Opening

/-! The queue of intents. It is only ever added to, so it makes no difference to a tour whether
somebody takes the intents between two operations or lets them wait. -/
namespace GuidedTour.Tour

variable {t : Tour}

/-- The tour with more intents waiting in front of its own. -/
def behind (t : Tour) (waiting : List Action) : Tour := { t with intents := waiting ++ t.intents }

@[simp] theorem takeIntents_behind (t : Tour) (waiting : List Action) :
    (t.behind waiting).takeIntents = (waiting ++ t.intents, t.takeIntents.2) := rfl

theorem behind_takeIntents (t : Tour) : t.takeIntents.2.behind t.takeIntents.1 = t := by
  simp [takeIntents, behind]

@[simp] theorem perform_behind (t : Tour) (waiting : List Action) (action : Action) :
    (t.behind waiting).perform action = (t.perform action).behind waiting := by
  cases action with
  | render | navigate => simp [perform, queue, behind]
  | handleResume => cases h : t.session.resumeRoute <;> simp [perform, queue, behind, h]
  | _ => rfl

theorem foldl_perform_behind (t : Tour) (waiting : List Action) (actions : List Action) :
    actions.foldl perform (t.behind waiting) = (actions.foldl perform t).behind waiting := by
  induction actions generalizing t with
  | nil => rfl
  | cons action rest ih => rw [List.foldl_cons, perform_behind, ih, List.foldl_cons]

theorem performUntil_behind {onComplete : Flow → List Action → Tour → Tour}
    (waiting : List Action) (goesOn : ∀ flow rest t,
      onComplete flow rest (t.behind waiting) = (onComplete flow rest t).behind waiting)
    (actions : List Action) (t : Tour) : performUntil onComplete actions (t.behind waiting) =
      (performUntil onComplete actions t).behind waiting := by
  induction actions generalizing t with
  | nil => rfl
  | cons action rest ih =>
    by_cases ha : action = .completeFeature
    · subst ha
      have same : (t.behind waiting).session = t.session := rfl
      cases hf : t.session.flow with
      | none => simp only [performUntil, same, hf, ih]
      | some flow => simp only [performUntil, same, hf, goesOn]
    · rw [Carried.performUntil_cons ha, Carried.performUntil_cons ha, perform_behind, ih]

-- The induction is on the features ahead, as the definition goes.
theorem settle_behind (waiting : List Action) (ahead : List Feature) (actions : List Action)
    (t : Tour) : settle ahead actions (t.behind waiting) =
      (settle ahead actions t).behind waiting := by
  induction ahead generalizing actions t with
  | nil =>
    unfold settle
    apply performUntil_behind
    intro flow rest t
    exact foldl_perform_behind (t.markCompleted flow.feature).finish.1 waiting _
  | cons next ahead ih =>
    unfold settle
    apply performUntil_behind
    intro flow rest t
    exact ih _ ((t.markCompleted flow.feature).begin next)

theorem performAll_behind (t : Tour) (waiting actions : List Action) :
    (t.behind waiting).performAll actions = (t.performAll actions).behind waiting :=
  settle_behind waiting _ actions t

section Openings

variable {waiting : List Action}

theorem openTutorial_behind (claim : Option String) (event : String) :
    (t.behind waiting).openTutorial claim event =
      ((t.openTutorial claim event).1, (t.openTutorial claim event).2.behind waiting) := by
  by_cases taken : claim.getD t.session.tutorial = t.session.tutorial ∧
      (t.tutorialOutcome event).handled = true
  · rw [show t.openTutorial claim event = _ from if_pos taken]
    exact if_pos taken
  · rw [show t.openTutorial claim event = _ from if_neg taken]
    exact if_neg taken

theorem openFlow_behind (claim : Option String) (event : String) (given : Option FlowParams) :
    (t.behind waiting).openFlow claim event given =
      ((t.openFlow claim event given).1, (t.openFlow claim event given).2.behind waiting) := by
  have session : (t.behind waiting).session = t.session := rfl
  have registry : (t.behind waiting).registry = t.registry := rfl
  unfold openFlow
  rw [session, registry]
  cases t.session.flow with
  | none => rfl
  | some flow =>
    dsimp only
    split <;> rfl

theorem openSelect_behind (features : List Feature) : (t.behind waiting).openSelect features =
    ((t.openSelect features).1, (t.openSelect features).2.behind waiting) := by
  cases features <;> rfl

theorem opening_behind {op : Operation} (carriesOn : op ≠ .restart ∧ op ≠ .reset) :
    (t.behind waiting).opening op = ((t.opening op).1, (t.opening op).2.behind waiting) := by
  cases op with
  | tutorial claim event => exact openTutorial_behind claim event
  | flow claim event given => exact openFlow_behind claim event given
  | select features => exact openSelect_behind _
  | observe route => rfl
  | dismiss => exact openTutorial_behind none _
  | restart => exact absurd rfl carriesOn.1
  | reset => exact absurd rfl carriesOn.2

theorem opened_behind {op : Operation} (carriesOn : op ≠ .restart ∧ op ≠ .reset) :
    (t.behind waiting).opened op = (t.opened op).behind waiting := by
  rw [opened, opening_behind carriesOn, opened, performAll_behind]

theorem continues_behind {op : Operation} :
    (t.behind waiting).Continues op ↔ t.Continues op := by
  cases op <;> rfl

end Openings

/-- What waits stays in front of the intents of an operation that does not start over. -/
theorem step_behind (t : Tour) (waiting : List Action) {op : Operation}
    (carriesOn : op ≠ .restart ∧ op ≠ .reset) :
    ((t.behind waiting).step op).2 = (t.step op).2.behind waiting := by
  have again : ((t.opened op).behind waiting).opened (.tutorial none "CONTINUE") =
      ((t.opened op).opened (.tutorial none "CONTINUE")).behind waiting :=
    opened_behind (by simp)
  simp only [step_eq, opened_behind carriesOn, continues_behind]
  split
  · exact again
  · rfl

/-- Taking the intents before an operation changes nothing but the intents. -/
theorem step_takeIntents (t : Tour) (op : Operation) :
    (t.takeIntents.2.step op).2.takeIntents.2 = (t.step op).2.takeIntents.2 := by
  by_cases carriesOn : op ≠ .restart ∧ op ≠ .reset
  · conv_rhs => rw [← t.behind_takeIntents, step_behind _ _ carriesOn]
    rw [takeIntents_behind]
  · obtain rfl | rfl : op = .restart ∨ op = .reset := by
      by_contra other
      exact carriesOn (not_or.1 other)
    all_goals rfl

theorem run_takeIntents (t : Tour) (ops : List Operation) :
    (t.takeIntents.2.run ops).takeIntents.2 = (t.run ops).takeIntents.2 := by
  induction ops generalizing t with
  | nil => rfl
  | cons op ops ih => rw [run_cons, run_cons, ← ih, step_takeIntents, ih]

/-- What an operation queues, whatever waits in the queue already. -/
def news (t : Tour) (op : Operation) : List Action := (t.takeIntents.2.step op).2.intents

/-- What a run of operations queues, oldest first. -/
def newsOf (t : Tour) : List Operation → List Action
  | [] => []
  | op :: ops => t.news op ++ (t.step op).2.newsOf ops

@[simp] theorem newsOf_nil (t : Tour) : t.newsOf [] = [] := rfl

@[simp] theorem newsOf_cons (t : Tour) (op : Operation) (ops : List Operation) :
    t.newsOf (op :: ops) = t.news op ++ (t.step op).2.newsOf ops := rfl

theorem newsOf_append (t : Tour) (ops more : List Operation) :
    t.newsOf (ops ++ more) = t.newsOf ops ++ (t.run ops).newsOf more := by
  induction ops generalizing t with
  | nil => rfl
  | cons op ops ih =>
    rw [List.cons_append, newsOf_cons, newsOf_cons, ih, List.append_assoc, run_cons]

theorem newsOf_takeIntents (t : Tour) (ops : List Operation) :
    t.takeIntents.2.newsOf ops = t.newsOf ops := by
  induction ops generalizing t with
  | nil => rfl
  | cons op ops ih =>
    rw [newsOf_cons, newsOf_cons, ← ih, step_takeIntents, ih]
    rfl

/-- What was queued before stays in front of what an operation queues. -/
theorem intents_step (t : Tour) {op : Operation} (carriesOn : op ≠ .restart ∧ op ≠ .reset) :
    (t.step op).2.intents = t.intents ++ t.news op := by
  conv_lhs => rw [← t.behind_takeIntents, step_behind _ _ carriesOn]
  rfl

theorem intents_run (t : Tour) {ops : List Operation}
    (carriesOn : ∀ op ∈ ops, op ≠ .restart ∧ op ≠ .reset) :
    (t.run ops).intents = t.intents ++ t.newsOf ops := by
  induction ops generalizing t with
  | nil => simp
  | cons op ops ih =>
    have rest := ih (t.step op).2 fun later mem => carriesOn later (List.mem_cons_of_mem _ mem)
    rw [run_cons, rest, t.intents_step (carriesOn op List.mem_cons_self), newsOf_cons,
      List.append_assoc]

theorem takeIntents_of_drained (h : t.intents = []) : t.takeIntents.2 = t := by
  simp [takeIntents, ← h]

theorem news_of_drained (h : t.intents = []) (op : Operation) :
    t.news op = (t.step op).2.intents := by
  rw [news, takeIntents_of_drained h]

/-- Whoever starts over drops what was queued before. -/
theorem intents_restart (t : Tour) : t.restart.2.intents = t.news .restart := rfl

/-- Nothing is selected: no plan, no flow and no parameters. -/
structure Unplanned (t : Tour) : Prop where
  flow : t.session.flow = none
  plan : t.session.plan = []
  params : t.session.params = {}

theorem Unplanned.select_nil (h : t.Unplanned) : t.select [] = t := by
  obtain ⟨r, session, intents⟩ := t
  obtain ⟨flow, plan, params⟩ := h
  cases session
  simp_all [select, Feature.distinct, Session.clearFeatures]

theorem Unplanned.perform (h : t.Unplanned) (action : Action) : (t.perform action).Unplanned := by
  obtain ⟨flow, plan, params⟩ := h
  cases action with
  | handleResume =>
    unfold Tour.perform
    dsimp only
    split <;> exact ⟨flow, plan, params⟩
  | handleDismissed | clearFeatureData => exact ⟨rfl, rfl, rfl⟩
  | _ => exact ⟨flow, plan, params⟩

theorem carried_unplanned : Carried fun _ t => t.Unplanned where
  skip _ h := h
  act _ h := h.perform _
  next some _ _ h := absurd (some.symm.trans h.flow) (by simp)
  last some _ h := absurd (some.symm.trans h.flow) (by simp)

/-- A tour that was started over waits for a plan. -/
theorem unplanned_restart (t : Tour) : t.restart.2.Unplanned := by
  have anew : t.anew.Unplanned := ⟨rfl, rfl, rfl⟩
  have opening : (t.anew.openTutorial none "AUTH").2.Unplanned :=
    openTutorial_induction (I := fun _ t => t.Unplanned) none "AUTH" anew fun _ => ⟨rfl, rfl, rfl⟩
  change (t.step .restart).2.Unplanned
  rw [step_eq]
  exact carried_unplanned.performAll (opening.plan ▸ List.nodup_nil) opening

end GuidedTour.Tour
