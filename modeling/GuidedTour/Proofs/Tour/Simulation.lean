import GuidedTour.Proofs.Machine.Transition
import GuidedTour.Proofs.Tour.Termination
import GuidedTour.Tour.Ledger

/-! A tour keeps the ledger. Its session has one flow or none where a ledger has three fields, and
every change of the ledger is the change of the tour, seen through the record. So an operation on
the ledger of a tour comes to the ledger of the tour after the operation, and to nothing else; and
whatever is done to a ledger, the three fields are set together and cleared together. -/
namespace GuidedTour

namespace Ledger

def of (t : Tour) : Ledger := ⟨t.registry, t.session.record, t.intents⟩

variable {t : Tour} {l after other : Ledger} {actions : List Action} {r : Registry}

theorem machine_of (t : Tour) : (of t).record.machine = t.session.flow.map (·.feature) := rfl

theorem state_of (t : Tour) : (of t).record.state = t.session.flow.map (·.state) := rfl

theorem history_of {flow : Flow} (hf : t.session.flow = some flow) :
    (of t).record.history = flow.history := by simp [of, Session.record, hf]

theorem perform_of (t : Tour) (action : Action) :
    (of t).perform action = of (t.perform action) := by
  cases action with
  | handleResume =>
    unfold perform Tour.perform
    have same : (of t).record.resumeRoute = t.session.resumeRoute := rfl
    rw [same]
    cases t.session.resumeRoute <;> rfl
  | _ => rfl

theorem head?_featuresAfter (f : Feature) (plan : List Feature) :
    (featuresAfter f plan).head? =
      (plan.findIdx? (· = f)).bind fun place => plan[place + 1]? := by
  induction plan with
  | nil => rfl
  | cons g rest ih =>
    by_cases same : g = f
    · simp [featuresAfter, List.findIdx?_cons, same, List.head?_eq_getElem?]
    · simp only [featuresAfter, same, if_false, ih, List.findIdx?_cons, decide_false]
      cases rest.findIdx? (· = f) <;> rfl

theorem nextFeature_of (t : Tour) : (of t).nextFeature = t.nextFeature := by
  unfold nextFeature Tour.nextFeature Session.ahead
  cases hf : t.session.flow with
  | none => simp [of, Session.record, hf]
  | some flow => simp [of, Session.record, hf, head?_featuresAfter]

/-- To cut a history behind the first place of a state is to keep what comes before the state. -/
theorem take_findIdx? {history : List String} {state : String} {place : Nat}
    (h : history.findIdx? (· = state) = some place) :
    history.take (place + 1) = history.takeWhile (· ≠ state) ++ [state] := by
  induction history generalizing place with
  | nil => cases h
  | cons first rest ih =>
    by_cases same : first = state
    · simp_all [List.findIdx?_cons]
    · simp only [List.findIdx?_cons, same, decide_false, Bool.false_eq_true, if_false,
        Option.map_eq_some_iff] at h
      obtain ⟨place, found, rfl⟩ := h
      simp [same, ih found]

theorem visit_of {flow : Flow} (hf : t.session.flow = some flow) (event state : String)
    (terminal : Bool) : (of t).visit event state terminal =
      { of t with record.history := Tour.recordVisit event state terminal flow.history } := by
  have history := history_of hf
  unfold visit Tour.recordVisit
  rw [history]
  cases terminal with
  | true => simp [← history]
  | false =>
    by_cases reset : event = "RESET"
    · simp [reset]
    · cases found : flow.history.findIdx? (· = state) with
      | some place =>
        have mem : state ∈ flow.history := by
          have visited : (flow.history.findIdx? (· = state)).isSome =
              flow.history.any (· = state) := List.findIdx?_isSome
          simpa [found] using visited
        simp [reset, mem, take_findIdx? found]
      | none =>
        have notMem : state ∉ flow.history := fun mem => by
          simpa using List.findIdx?_eq_none_iff.1 found state mem
        simp [reset, notMem]

theorem tutorialFrom_of (t : Tour) (claim : Option String) (event : String) :
    (of t).tutorialFrom (claim.getD t.session.tutorial) event =
      ((t.tutorialFrom (claim.getD t.session.tutorial) event).1, (t.openTutorial claim event).1,
        of (t.openTutorial claim event).2) := by
  have outcome : (of t).registry.tutorial.transition t.session.tutorial event {} =
      t.tutorialOutcome event := rfl
  have tutorial : (of t).record.tutorial = t.session.tutorial := rfl
  unfold tutorialFrom Tour.tutorialFrom Tour.openTutorial
  rw [tutorial]
  by_cases stale : claim.getD t.session.tutorial = t.session.tutorial
  · simp only [stale, outcome]
    by_cases handled : (t.tutorialOutcome event).handled = true <;> simp [handled]
    rfl
  · simp [stale]

theorem moved_of {flow : Flow} (hf : t.session.flow = some flow) (event : String)
    (params : FlowParams) :
    (of t).moved flow.feature event params (flow.answer t.registry event params) =
      of (t.flowMoved flow event params) := by
  have recorded := visit_of (t := { t with session.params := params }) hf event
    (flow.answer t.registry event params).state
    ((t.registry.flow flow.feature).isTerminal (flow.answer t.registry event params).state)
  change { visit (of { t with session.params := params }) event
      (flow.answer t.registry event params).state
      ((t.registry.flow flow.feature).isTerminal (flow.answer t.registry event params).state) with
    record.state := some (flow.answer t.registry event params).state } = _
  rw [recorded]
  simp [of, Session.record, Tour.flowMoved, Flow.moved, hf]

theorem flowFrom_of {flow : Flow} (hf : t.session.flow = some flow) (claim : Option String)
    (event : String) (given : Option FlowParams) :
    (of t).flowFrom (claim.getD flow.state) event given =
      ((t.flowFrom (claim.getD flow.state) event given).1, (t.openFlow claim event given).1,
        of (t.openFlow claim event given).2) := by
  have active : "active.".toList.isPrefixOf (of t).record.tutorial.toList = t.session.isActive :=
    rfl
  have params : (of t).record.params = t.session.params := rfl
  have sent (params : FlowParams) : ((of t).registry.flow flow.feature).transition flow.state event
      ⟨some params, flow.history⟩ = flow.answer t.registry event params := rfl
  have answer (params : FlowParams) : t.flowOutcome flow event params =
      flow.answer t.registry event params := rfl
  unfold flowFrom Tour.flowFrom Tour.openFlow
  simp only [machine_of, state_of, history_of hf, hf, Option.map_some, active, params, answer]
  cases t.session.isActive with
  | false => simp
  | true =>
    by_cases stale : claim.getD flow.state = flow.state
    · simp only [stale, sent, moved_of hf]
      by_cases handled : (flow.answer t.registry event (given.getD t.session.params)).handled = true
      · simp [handled]
      · simp [handled]
    · simp [stale, Ne.symm stale]

theorem opening_of (t : Tour) (op : Operation) : (of t).opening op =
    ((t.step op).1, (t.opening op).1, of (t.opening op).2) := by
  cases op with
  | tutorial claim event =>
    cases claim with
    | none => exact congrArg (Prod.map some id) (tutorialFrom_of t none event)
    | some state => exact congrArg (Prod.map some id) (tutorialFrom_of t (some state) event)
  | flow claim event given =>
    cases hf : t.session.flow with
    | none =>
      simp only [Tour.opening, Tour.openFlow, hf]
      cases claim with
      | none =>
        simp only [opening, state_of, Tour.step, Tour.flow, hf, Option.map_none]
        rfl
      | some claim =>
        simp only [opening, flowFrom, machine_of, Tour.step, Tour.flowFrom, hf, Option.map_none]
        rfl
    | some flow =>
      have same := congrArg (Prod.map some id) (flowFrom_of hf claim event given)
      cases claim with
      | some claim => exact same
      | none =>
        have sent : t.step (.flow none event given) =
            (t.flowFrom flow.state event given).map some id := by simp [Tour.step, Tour.flow, hf]
        rw [sent]
        simp only [opening, state_of, hf, Option.map_some]
        exact same
  | select features =>
    simp only [opening, Tour.step, Tour.opening]
    cases Feature.distinct features <;> rfl
  | observe route => rfl
  | dismiss => exact congrArg (Prod.map some id) (tutorialFrom_of t none "DISMISS")
  | restart => exact congrArg (Prod.map some id) (tutorialFrom_of t.anew none "AUTH")
  | reset => rfl

theorem tutorial_of (t : Tour) (event : String) : (of t).tutorial event =
    ((t.tutorial event).1, (t.openTutorial none event).1, of (t.openTutorial none event).2) :=
  tutorialFrom_of t none event

/-- An event that the tutorial does not take moves it to where it is, and leaves nothing to do. -/
theorem openTutorial_own (t : Tour) (event : String) : t.openTutorial none event =
    ((t.tutorialOutcome event).actions, t.tutorialMoved event) := by
  unfold Tour.openTutorial Tour.tutorialMoved
  cases handled : (t.tutorialOutcome event).handled with
  | true => simp
  | false =>
    have stays : t.tutorialOutcome event = .unhandled t.session.tutorial :=
      Machine.transition_unhandled handled
    simp [stays, Outcome.unhandled]

/-- The last flow ends, and the tutorial is told so. -/
theorem endFlow_of (t : Tour) :
    ((of t).endFlow.tutorial "DONE").2 = (t.finish.2, of t.finish.1) := by
  have left : (of t).endFlow = of { t with session.flow := none } := rfl
  rw [left, tutorial_of, openTutorial_own]
  rfl

/-- What a tour performs, its ledger applies. -/
theorem applies_of {features : List Feature} {dones : Nat} {u : Tour}
    (h : Tour.Performs actions t features dones u) : Applies actions (of t) (of u) := by
  induction h with
  | nil t => exact .nil _
  | act other _ ih => exact .act other (perform_of _ _ ▸ ih)
  | idle none _ ih => exact .idle (by simp [machine_of, none]) ih
  | @next flow g _ t _ _ _ _ _ _ hf planned _ _ inner outer =>
    refine .next (f := flow.feature) (by simp [machine_of, hf]) ?_ inner outer
    exact (nextFeature_of (t.markCompleted flow.feature)).trans planned
  | @last flow _ t _ _ _ _ _ _ hf planned _ _ inner outer =>
    refine .last (f := flow.feature) (by simp [machine_of, hf]) ?_ ?_ outer
    · exact (nextFeature_of (t.markCompleted flow.feature)).trans planned
    · have ends := endFlow_of (t.markCompleted flow.feature)
      have counted : (of t).complete flow.feature = of (t.markCompleted flow.feature) := rfl
      rw [counted, ends]
      exact inner

theorem Applies.unique (h : Applies actions l after) (h' : Applies actions l other) :
    after = other := by
  induction h generalizing other with
  | nil l =>
    cases h'
    rfl
  | act ne _ ih =>
    cases h' with
    | act _ h' => exact ih h'
    | _ => exact absurd rfl ne
  | idle none _ ih =>
    cases h' with
    | act ne => exact absurd rfl ne
    | idle _ h' => exact ih h'
    | next some => cases none.symm.trans some
    | last some => cases none.symm.trans some
  | next some planned _ _ ihInner ihOuter =>
    cases h' with
    | act ne => exact absurd rfl ne
    | idle none => cases none.symm.trans some
    | next some' planned' inner' outer' =>
      cases some.symm.trans some'
      cases planned.symm.trans planned'
      obtain rfl := ihInner inner'
      exact ihOuter outer'
    | last some' planned' =>
      cases some.symm.trans some'
      cases planned.symm.trans planned'
  | last some planned _ _ ihInner ihOuter =>
    cases h' with
    | act ne => exact absurd rfl ne
    | idle none => cases none.symm.trans some
    | next some' planned' =>
      cases some.symm.trans some'
      cases planned.symm.trans planned'
    | last some' planned' inner' outer' =>
      cases some.symm.trans some'
      obtain rfl := ihInner inner'
      exact ihOuter outer'

theorem Operates.unique {op : Operation} {outcome told : Option Outcome}
    (h : l.Operates op outcome after) (h' : l.Operates op told other) :
    outcome = told ∧ after = other := by
  cases h with
  | once run stops =>
    cases h' with
    | once run' => exact ⟨rfl, run.unique run'⟩
    | twice run' waits => exact absurd (run.unique run' ▸ waits) stops
  | twice run waits second =>
    cases h' with
    | once run' stops => exact absurd (run.unique run' ▸ waits) stops
    | twice run' _ second' =>
      obtain rfl := run.unique run'
      exact ⟨rfl, second.unique second'⟩

theorem waits_of (t : Tour) (op : Operation) : (of t).Waits op ↔ t.Continues op := by
  cases op <;> exact Iff.rfl

theorem operates_of (nodup : t.session.plan.Nodup) (op : Operation) :
    (of t).Operates op (t.step op).1 (of (t.step op).2) := by
  obtain ⟨features, dones, returns, -⟩ := Tour.step_spent nodup op
  have opens := opening_of t op
  have told : ((of t).opening op).1 = (t.step op).1 := by rw [opens]
  rw [← told]
  cases returns with
  | once run stops =>
    refine .once ?_ fun waits => stops ((waits_of _ op).1 waits)
    rw [opens]
    exact applies_of run
  | twice run continues second =>
    have first := applies_of run
    refine .twice (by rw [opens]; exact first) ((waits_of _ op).2 continues) ?_
    rw [tutorial_of]
    exact applies_of second

/-- What is done to the ledger of a tour is what the tour does: an operation is answered alike, and
comes to the ledger of the tour after it and to no other. -/
theorem operates_iff (nodup : t.session.plan.Nodup) (op : Operation) {outcome : Option Outcome} :
    (of t).Operates op outcome after ↔ outcome = (t.step op).1 ∧ after = of (t.step op).2 := by
  constructor
  · exact fun h => h.unique (operates_of nodup op)
  · rintro ⟨rfl, rfl⟩
    exact operates_of nodup op

theorem applies_enter (r : Registry) :
    Applies (r.tutorial.entryActions r.tutorial.initial) (fresh r) (of (.enter r)) := by
  obtain ⟨features, dones, performs, -⟩ := Tour.performs_performAll (t := ⟨r, .fresh r, []⟩)
    List.nodup_nil (r.tutorial.entryActions r.tutorial.initial)
  exact applies_of performs

/-- Every ledger is kept by a tour, whose plan lists nothing twice. -/
theorem Reached.exists_tour (h : Reached r l) : ∃ t, l = of t ∧ t.session.plan.Nodup := by
  induction h with
  | enter run =>
    exact ⟨.enter r, run.unique (applies_enter r),
      Tour.kept_nodup.performAll List.nodup_nil List.nodup_nil⟩
  | @resume record fits =>
    have kept : record.session.record = record := Record.record_session fits
    refine ⟨⟨r, record.session, []⟩, by simp only [of, kept], ?_⟩
    exact (Tour.fits_of_resume (Tour.resume_eq_ok_iff.2 ⟨fits, rfl⟩)).plan
  | operate _ run ih =>
    obtain ⟨t, rfl, nodup⟩ := ih
    obtain ⟨-, rfl⟩ := (operates_iff nodup _).1 run
    exact ⟨_, rfl, Tour.kept_nodup.step nodup _⟩
  | take _ ih =>
    obtain ⟨t, rfl, nodup⟩ := ih
    exact ⟨t.takeIntents.2, rfl, nodup⟩

/-- Whatever is done to a ledger, the flow and its state are set together, and no history is left
without them. -/
theorem Reached.together (h : Reached r l) : l.record.machine.isSome = l.record.state.isSome ∧
    (l.record.machine = none → l.record.history = []) := by
  obtain ⟨t, rfl, -⟩ := h.exists_tour
  simp only [of, Session.record]
  cases t.session.flow <;> simp

end Ledger

end GuidedTour
