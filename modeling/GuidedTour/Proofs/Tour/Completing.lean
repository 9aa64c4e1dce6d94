import GuidedTour.Proofs.Tour.Announcing
import GuidedTour.Proofs.Tour.Dismissal
import GuidedTour.Proofs.Tour.Steering

/-! What completes a flow, and what that comes to. But for a fresh start, the set of completed
features changes by the one event that leads the active flow to its end. The next planned flow
takes the place of the completed one, or the tour ends with it. -/
namespace GuidedTour

/-- `DONE` ends an active tutorial, and asks for nothing that costs the plan. -/
theorem Registry.done_leads : ∀ state ∈ builtin.tutorial.states.names,
    "active.".toList.isPrefixOf state.toList = true →
      (builtin.tutorial.transition state "DONE" {}).state = "complete" ∧
        ∀ action ∈ (builtin.tutorial.transition state "DONE" {}).actions, action.isCalm = true := by
  decide +kernel

namespace Session

variable {s : Session} {flow : Flow}

theorem record_of_flow (h : s.flow = some flow) : s.record.machine = some flow.feature ∧
    s.record.state = some flow.state ∧ s.record.history = flow.history := by
  simp [record, h]

theorem record_of_none (h : s.flow = none) :
    s.record.machine = none ∧ s.record.state = none ∧ s.record.history = [] := by
  simp [record, h]

end Session

namespace Tour

variable {t next : Tour} {flow : Flow} {event : String} {params : FlowParams} {op : Operation}
  {actions : List Action}

/-- The operation is an event that the active flow answers with its end. -/
def Completes (t : Tour) (op : Operation) : Prop :=
  ∃ claim event given outcome, op = .flow claim event given ∧ (t.step op).1 = some outcome ∧
    outcome.handled = true ∧ outcome.state = "complete"

/-- What each action of a list leaves alone, the whole list does. -/
theorem foldl_perform_eq {β : Type} (view : Tour → β)
    (stays : ∀ t, ∀ action ∈ actions, view (t.perform action) = view t) (t : Tour) :
    view (actions.foldl perform t) = view t := by
  induction actions generalizing t with
  | nil => rfl
  | cons action rest ih =>
    rw [List.foldl_cons, ih fun t action mem => stays t action (List.mem_cons_of_mem _ mem)]
    exact stays t action List.mem_cons_self

theorem completed_tutorial (registry : t.registry = .builtin) (event : String) :
    (t.tutorial event).2.session.completed = t.session.completed := by
  rw [tutorial_snd registry]
  exact foldl_perform_eq (·.session.completed) (fun t action _ => perform_completed t action) _

theorem plan_perform_of_isCalm {action : Action} (h : action.isCalm = true) :
    (t.perform action).session.plan = t.session.plan := by
  cases action with
  | handleDismissed => cases h
  | clearFeatureData => cases h
  | handleResume => unfold perform; dsimp only; split <;> rfl
  | _ => rfl

/-- The last planned flow has ended, and the tutorial takes `DONE`. -/
theorem done_tutorial (registry : t.registry = .builtin)
    (known : Registry.builtin.tutorial.contains t.session.tutorial = true)
    (active : t.session.isActive = true) :
    (t.tutorial "DONE").2.session.tutorial = "complete" ∧
      (t.tutorial "DONE").2.session.plan = t.session.plan := by
  have leads := Registry.done_leads _ (Machine.mem_names_of_contains known) active
  rw [← registry] at leads
  refine ⟨(tutorial_tutorial registry "DONE").trans leads.1, ?_⟩
  rw [tutorial_snd registry]
  exact foldl_perform_eq (·.session.plan)
    (fun _ action mem => plan_perform_of_isCalm (leads.2 action mem)) _

/-- The completed flow is counted. The next planned one begins, with nothing but the plan and the
tutorial left to it, or with none the tour ends and keeps its plan. -/
structure Completed (t : Tour) (flow : Flow) (next : Tour) : Prop where
  completed : next.session.completed = t.session.completed.insert flow.feature
  plan : next.session.plan = t.session.plan
  goesOn : ∀ f, t.nextFeature = some f → next.session.flow = some (.begun .builtin f) ∧
    next.session.params = {} ∧ next.session.tutorial = t.session.tutorial
  ends : t.nextFeature = none → next.session.flow = none ∧ next.session.tutorial = "complete"

theorem Taken.completed (h : t.Taken flow event params next) (registry : t.registry = .builtin)
    (known : Registry.builtin.tutorial.contains t.session.tutorial = true)
    (active : t.session.isActive = true)
    (completes : (flow.answer t.registry event params).actions = [.completeFeature]) :
    t.Completed flow next := by
  cases h with
  | screen shows =>
    rw [completes] at shows
    exact absurd List.mem_cons_self (completeFeature_notMem shows)
  | @next f _ planned =>
    have shows := shows_begin (t := ((t.flowMoved flow event params).markCompleted
      flow.feature).begin f) registry f
    refine ⟨shows.completed, shows.plan, fun g planned' => ?_, fun none => ?_⟩
    · obtain rfl := Option.some.inj (planned.symm.trans planned')
      refine ⟨?_, shows.params, shows.tutorial⟩
      rw [shows.flow, ← registry]
      rfl
    · rw [none] at planned
      cases planned
  | last _ planned =>
    let between := ((t.flowMoved flow event params).markCompleted flow.feature).withoutFlow
    have same : between.registry = .builtin := registry
    have done := done_tutorial same known active
    refine ⟨completed_tutorial same "DONE", done.2, fun f some => ?_,
      fun _ => ⟨flow_none_tutorial same rfl "DONE", done.1⟩⟩
    rw [some] at planned
    cases planned

/-- A flow event that completes no flow shows another screen of it. -/
theorem Taken.shows (h : t.Taken flow event params next)
    (goesOn : (flow.answer t.registry event params).actions ≠ [.completeFeature]) :
    (t.flowMoved flow event params).Shows next := by
  cases h with
  | screen shows => exact shows_foldl shows
  | next completes => exact absurd completes goesOn
  | last completes => exact absurd completes goesOn

/-- A flow event completes the active flow, or leaves alone what is completed and planned, and
the tutorial. -/
theorem step_flow_completed (sound : Sound .builtin (fun _ _ => True) t) (claim : Option String)
    (event : String) (given : Option FlowParams) :
    let op := Operation.flow claim event given
    let after := (t.step op).2.session
    (¬t.Completes op ∧ after.completed = t.session.completed ∧ after.plan = t.session.plan ∧
        after.tutorial = t.session.tutorial) ∨
      ∃ flow, t.session.flow = some flow ∧ t.session.isActive = true ∧ t.Completes op ∧
        t.Completed flow (t.step op).2 := by
  intro op after
  obtain ⟨state, stays⟩ | ⟨flow, next, hf, active, -, handled, moved, taken⟩ :=
    step_flow_cases sound.registry sound.plan claim event given
  · have same : after = t.session := by simp only [after, op, stays]
    refine .inl ⟨?_, by simp only [same, and_self]⟩
    rintro ⟨-, -, -, outcome, -, answered, handled, -⟩
    obtain rfl := Option.some.inj ((congrArg Prod.fst stays).symm.trans answered)
    cases handled
  · have move : (⟨flow.state, event, flow.answer t.registry event
        (given.getD t.session.params)⟩ : Machine.Move) ∈
        (Registry.builtin.flow flow.feature).moves := sound.registry ▸ Machine.mem_moves handled
    have ends := Registry.completes_iff _ _ move
    dsimp only at ends
    have leads : (t.step op).2 = next := congrArg Prod.snd moved
    by_cases last : (flow.answer t.registry event (given.getD t.session.params)).state =
        "complete"
    · refine .inr ⟨flow, hf, active, ⟨claim, event, given, _, rfl, congrArg Prod.fst moved,
        handled, last⟩, ?_⟩
      rw [leads]
      exact taken.completed sound.registry sound.tutorial active (ends.1 last)
    · have shows := taken.shows fun completes => last (ends.2 completes)
      rw [← leads] at shows
      refine .inl ⟨?_, shows.completed, shows.plan, shows.tutorial⟩
      rintro ⟨-, -, -, outcome, -, answered, -, complete⟩
      obtain rfl := Option.some.inj ((congrArg Prod.fst moved).symm.trans answered)
      exact last complete

theorem completed_select (registry : t.registry = .builtin) (features : List Feature) :
    (t.step (.select features)).2.session.completed = t.session.completed := by
  have opened := completed_opened_select registry features
  rw [step_eq]
  split
  · -- `CONTINUE` is the tutorial's, which completes nothing.
    rw [← tutorialFrom_eq]
    exact (completed_tutorial ((aside_opened_select registry features).registry.trans registry)
      "CONTINUE").trans opened
  · exact opened

/-- Completions are the flow events that are answered with the end of the active flow, and each of
them counts that flow and makes way for the next planned one. -/
theorem step_completed (sound : Sound .builtin (fun _ _ => True) t)
    (carriesOn : op ≠ .restart ∧ op ≠ .reset) :
    (¬t.Completes op ∧ (t.step op).2.session.completed = t.session.completed) ∨
      ∃ flow, t.session.flow = some flow ∧ t.Completes op ∧ t.Completed flow (t.step op).2 := by
  have registry := sound.registry
  -- Whatever is no flow event completes nothing.
  have other (h : ∀ claim event given, op ≠ .flow claim event given) : ¬t.Completes op :=
    fun ⟨claim, event, given, _, same, _⟩ => h claim event given same
  cases op with
  | tutorial claim event =>
    refine .inl ⟨other (by simp), ?_⟩
    rw [step_tutorial]
    split
    · exact completed_tutorial registry event
    · rfl
  | flow claim event given =>
    obtain ⟨goesOn, same, -⟩ | ⟨flow, hf, -, completes, counted⟩ :=
      step_flow_completed sound claim event given
    · exact .inl ⟨goesOn, same⟩
    · exact .inr ⟨flow, hf, completes, counted⟩
  | select features => exact .inl ⟨other (by simp), completed_select registry features⟩
  | observe route => exact .inl ⟨other (by simp), rfl⟩
  | dismiss => exact .inl ⟨other (by simp), completed_tutorial registry "DISMISS"⟩
  | restart => exact absurd rfl carriesOn.1
  | reset => exact absurd rfl carriesOn.2

/-- A fresh start forgets what was completed. Any other operation leaves it alone, unless it is
the flow event that leads to the end of the active flow. Then that feature is counted, and every
other is counted if it was before; the next planned flow is active at its initial state, with no
other state recorded and no parameters, and the tutorial stays; or if none is left the tutorial is
complete. -/
theorem completion_counts (h : t.Reachable) (op : Operation) :
    let before := t.session.record
    let after := (t.step op).2.session.record
    (op = .restart ∨ op = .reset → ∀ g, after.completed.contains g = false) ∧
    (op ≠ .restart ∧ op ≠ .reset →
      (¬t.Completes op → after.completed = before.completed) ∧
      (t.Completes op → ∃ f, before.machine = some f ∧
        (∀ g, after.completed.contains g = (decide (g = f) || before.completed.contains g)) ∧
        after.plan = before.plan ∧
        (∀ g, t.nextFeature = some g → after.machine = some g ∧
          after.state = some (Registry.builtin.flow g).initial ∧
          after.history = [(Registry.builtin.flow g).initial] ∧ after.params = {} ∧
          after.tutorial = before.tutorial) ∧
        (t.nextFeature = none → after.machine = none ∧ after.state = none ∧
          after.history = [] ∧ after.tutorial = "complete"))) := by
  intro before after
  have sound := h.sound
  refine ⟨?_, fun carriesOn => ?_⟩
  · intro anew g
    have empty : after.completed = .empty := by
      obtain rfl | rfl := anew
      · exact congrArg Session.completed (session_of_restart sound.registry)
      · exact congrArg Session.completed (session_of_reset sound.registry)
    rw [empty, FeatureSet.contains_empty]
  obtain ⟨goesOn, stays⟩ | ⟨flow, hf, completes, counted⟩ := step_completed sound carriesOn
  · exact ⟨fun _ => stays, fun completes => absurd completes goesOn⟩
  · refine ⟨fun not => absurd completes not, fun _ => ⟨flow.feature, ?_, fun g => ?_,
      counted.plan, fun g planned => ?_, fun none => ?_⟩⟩
    · exact (Session.record_of_flow hf).1
    · exact (congrArg (·.contains g) counted.completed).trans (FeatureSet.contains_insert ..)
    · obtain ⟨begun, params, tutorial⟩ := counted.goesOn g planned
      obtain ⟨machine, state, history⟩ := Session.record_of_flow begun
      exact ⟨machine, state, history, params, tutorial⟩
    · obtain ⟨left, tutorial⟩ := counted.ends none
      obtain ⟨machine, state, history⟩ := Session.record_of_none left
      exact ⟨machine, state, history, tutorial⟩

/-- A tour of policies and tools that comes back to policies, completed before, by a new plan. -/
def returning : List Operation :=
  [.restart, .select [.policies, .tools], .flow none "DONE" none, .select [.tools, .policies],
    .flow none "CONTINUE" none, .flow none "DONE" none]

/-- Policies end the plan that began with tools, and are counted no second time. -/
theorem completion_counts_returning :
    let t := (enter .builtin).run returning
    let done := (t.step (.flow none "DONE" (some { mountType := some "kv" }))).2
    t.Completes (.flow none "DONE" (some { mountType := some "kv" })) ∧
      Feature.all.map t.session.completed.contains = [false, false, true, false, true] ∧
      Feature.all.map done.session.record.completed.contains = [false, false, true, false, true] ∧
      done.session.record.plan = [.tools, .policies] ∧ done.session.record.machine = none ∧
      done.session.record.history = [] ∧ done.session.record.tutorial = "complete" := by
  intro t done
  have reached : t.Reachable := ⟨_, returning, .inl rfl, rfl⟩
  have answers : (t.step (.flow none "DONE" (some { mountType := some "kv" }))).1 =
        some ⟨"complete", [.completeFeature], true⟩ ∧
      Feature.all.map t.session.completed.contains = [false, false, true, false, true] ∧
      t.session.plan = [.tools, .policies] ∧ t.session.record.machine = some .policies ∧
      t.nextFeature = none := by
    decide +kernel
  obtain ⟨answered, counted, plan, machine, last⟩ := answers
  have completes : t.Completes (.flow none "DONE" (some { mountType := some "kv" })) :=
    ⟨none, "DONE", some { mountType := some "kv" }, _, rfl, answered, rfl, rfl⟩
  obtain ⟨f, active, counts, kept, -, ends⟩ :=
    ((completion_counts reached (.flow none "DONE" (some { mountType := some "kv" }))).2
      ⟨by simp, by simp⟩).2 completes
  obtain rfl := Option.some.inj (machine.symm.trans active)
  obtain ⟨none, -, history, tutorial⟩ := ends last
  refine ⟨completes, counted, ?_, kept.trans plan, none, history, tutorial⟩
  rw [List.map_congr_left fun g _ => counts g]
  change Feature.all.map (fun g => decide (g = .policies) || t.session.completed.contains g) = _
  simp only [Feature.all, List.map_cons, List.map_nil, List.cons.injEq] at counted ⊢
  obtain ⟨secrets, authentication, -, replication, tools, -⟩ := counted
  simp [secrets, authentication, replication, tools]

end Tour

end GuidedTour
