import GuidedTour.Proofs.Flow.Walks
import GuidedTour.Proofs.Tour.Runs

/-! What an operation does over the built-in machines. Their tutorial completes no flow, the
first screens of their flows do nothing but show themselves, and an event of a flow either
shows another screen or completes the flow. So what the tutorial governs changes by no more
than the one event that an operation may send to it. -/
namespace GuidedTour

/-- Shows a screen of a flow: renders beside the tutorial's region, or navigates. -/
def Action.showsFlow : Action → Bool
  | render region _ => region != .tutorial
  | navigate _ => true
  | _ => false

namespace Registry

theorem tutorial_moves : ∀ move ∈ builtin.tutorial.moves,
    .completeFeature ∉ move.answer.actions := by
  decide +kernel

/-- A flow shows its screens, or it is completed. -/
theorem flow_shows (f : Feature) :
    (∀ action ∈ Tour.beginActions builtin f, action.showsFlow = true) ∧
    ∀ move ∈ (builtin.flow f).moves,
      (∀ action ∈ move.answer.actions, action.showsFlow = true) ∨
        move.answer.actions = [.completeFeature] := by
  cases f <;> decide +kernel

end Registry

namespace Tour

variable {t next last : Tour} {actions : List Action} {flow : Flow} {f : Feature}

theorem performUntil_eq_foldl {onComplete : Flow → List Action → Tour → Tour}
    (h : .completeFeature ∉ actions) :
    performUntil onComplete actions t = actions.foldl perform t := by
  induction actions generalizing t with
  | nil => rfl
  | cons action rest ih =>
    rw [List.mem_cons, not_or] at h
    rw [Carried.performUntil_cons (Ne.symm h.1), List.foldl_cons]
    exact ih h.2

theorem performAll_eq_foldl (h : .completeFeature ∉ actions) :
    t.performAll actions = actions.foldl perform t := by
  unfold performAll
  cases t.session.ahead with
  | nil => exact performUntil_eq_foldl h
  | cons next ahead => exact performUntil_eq_foldl h

theorem performAll_next {next : Feature} {ahead : List Feature}
    (hf : t.session.flow = some flow) (nodup : t.session.plan.Nodup)
    (ha : t.session.ahead = next :: ahead) : t.performAll [.completeFeature] =
      ((t.markCompleted flow.feature).begin next).performAll (beginActions t.registry next) := by
  have goesOn : ((t.markCompleted flow.feature).begin next).session.ahead = ahead := by
    have due := due_next hf nodup ha
    rw [due_of_flow (begin_flow _ _)] at due
    exact (List.cons.inj due).2
  unfold performAll
  rw [ha, goesOn, settle]
  simp only [performUntil, hf, List.append_nil]
  rfl

theorem foldl_perform_unhandled {event : String}
    (h : (t.tutorialOutcome event).handled = false) :
    (t.tutorialOutcome event).actions.foldl perform (t.tutorialMoved event) = t := by
  have stays : t.tutorialOutcome event = .unhandled t.session.tutorial :=
    Machine.transition_unhandled h
  unfold tutorialMoved
  rw [stays]
  rfl

theorem tutorial_fst (t : Tour) (event : String) :
    (t.tutorial event).1 = t.tutorialOutcome event := by
  unfold tutorial tutorialFrom
  simp only [ne_eq, not_true_eq_false, if_false]
  split <;> rfl

theorem tutorialOutcome_builtin (registry : t.registry = .builtin) (event : String) :
    t.tutorialOutcome event =
      Registry.builtin.tutorial.transition t.session.tutorial event {} := by
  rw [← registry]
  rfl

theorem tutorialFrom_of_unhandled {event : String} (state : String)
    (h : (t.tutorialOutcome event).handled = false) :
    t.tutorialFrom state event = (.unhandled state, t) := by
  unfold tutorialFrom
  by_cases same : state = t.session.tutorial
  · have stays : t.tutorialOutcome event = .unhandled t.session.tutorial :=
      Machine.transition_unhandled h
    rw [stays, same]
    simp [Outcome.unhandled]
  · rw [if_pos same]

theorem tutorial_snd (registry : t.registry = .builtin) (event : String) :
    (t.tutorial event).2 =
      (t.tutorialOutcome event).actions.foldl perform (t.tutorialMoved event) := by
  unfold tutorial tutorialFrom
  cases handled : (t.tutorialOutcome event).handled with
  | true =>
    simp only [ne_eq, not_true_eq_false, if_false, handled, if_true]
    refine performAll_eq_foldl ?_
    have move := Machine.mem_moves handled
    rw [registry] at move
    have plain := Registry.tutorial_moves _ move
    rw [← registry] at plain
    exact plain
  | false =>
    simp only [ne_eq, not_true_eq_false, if_false, handled, Bool.false_eq_true]
    exact (foldl_perform_unhandled handled).symm

def withoutFlow (t : Tour) : Tour := { t with session.flow := none }

theorem performAll_last (registry : t.registry = .builtin) (hf : t.session.flow = some flow)
    (ha : t.session.ahead = []) : t.performAll [.completeFeature] =
      ((t.markCompleted flow.feature).withoutFlow.tutorial "DONE").2 := by
  have same : (t.markCompleted flow.feature).withoutFlow.registry = .builtin := registry
  rw [tutorial_snd same]
  unfold performAll
  rw [ha, settle]
  simp only [performUntil, hf, List.append_nil]
  rfl

/-- An event for the tutorial does nothing, or makes one of its machine's moves. -/
theorem tutorial_cases (registry : t.registry = .builtin) (event : String) :
    ((t.tutorialOutcome event).handled = false ∧ (t.tutorial event).2 = t) ∨
      (t.tutorialOutcome event).handled = true ∧ ∃ answer,
        ⟨t.session.tutorial, event, answer⟩ ∈ Registry.builtin.tutorial.moves ∧
        (t.tutorial event).2 =
          answer.actions.foldl perform { t with session.tutorial := answer.state } := by
  rw [tutorial_snd registry]
  cases handled : (t.tutorialOutcome event).handled with
  | true =>
    have move := Machine.mem_moves handled
    rw [registry] at move
    refine .inr ⟨rfl, t.tutorialOutcome event, ?_, rfl⟩
    unfold tutorialOutcome
    rw [registry]
    exact move
  | false => exact .inl ⟨rfl, foldl_perform_unhandled handled⟩

@[simp] theorem foldl_perform_tutorial (t : Tour) (actions : List Action) :
    (actions.foldl perform t).session.tutorial = t.session.tutorial := by
  induction actions generalizing t with
  | nil => rfl
  | cons action rest ih => rw [List.foldl_cons, ih, perform_tutorial]

theorem tutorial_tutorial (registry : t.registry = .builtin) (event : String) :
    (t.tutorial event).2.session.tutorial = (t.tutorialOutcome event).state := by
  rw [tutorial_snd registry, foldl_perform_tutorial]
  rfl

theorem step_tutorial (t : Tour) (claim : Option String) (event : String) :
    (t.step (.tutorial claim event)).2 =
      if claim.getD t.session.tutorial = t.session.tutorial then (t.tutorial event).2 else t := by
  cases claim with
  | none => exact (if_pos rfl).symm
  | some state =>
    change (t.tutorialFrom state event).2 = if state = _ then _ else t
    split
    · rename_i same
      rw [same]
      rfl
    · rename_i stale
      unfold tutorialFrom
      rw [if_pos stale]

/-- What the tutorial governs is left alone. -/
structure Aside (t next : Tour) : Prop where
  registry : next.registry = t.registry
  tutorial : next.session.tutorial = t.session.tutorial
  shown : next.session.shownBeforeLogin = t.session.shownBeforeLogin
  resumeRoute : next.session.resumeRoute = t.session.resumeRoute
  region : next.session.screen.tutorial = t.session.screen.tutorial

theorem Aside.refl (t : Tour) : t.Aside t := ⟨rfl, rfl, rfl, rfl, rfl⟩

theorem Aside.trans (h : t.Aside next) (h' : next.Aside last) : t.Aside last :=
  ⟨h'.registry.trans h.registry, h'.tutorial.trans h.tutorial, h'.shown.trans h.shown,
    h'.resumeRoute.trans h.resumeRoute, h'.region.trans h.region⟩

/-- A screen is shown, and nothing else happens to the plan and its flows either. -/
structure Shows (t next : Tour) : Prop extends Aside t next where
  flow : next.session.flow = t.session.flow
  plan : next.session.plan = t.session.plan
  params : next.session.params = t.session.params
  completed : next.session.completed = t.session.completed

theorem shows_perform {action : Action} (h : action.showsFlow = true) :
    t.Shows (t.perform action) := by
  cases action with
  | render region component =>
    cases region with
    | tutorial => cases h
    | _ => exact ⟨⟨rfl, rfl, rfl, rfl, rfl⟩, rfl, rfl, rfl, rfl⟩
  | navigate route => exact ⟨⟨rfl, rfl, rfl, rfl, rfl⟩, rfl, rfl, rfl, rfl⟩
  | _ => cases h

theorem shows_foldl (h : ∀ action ∈ actions, action.showsFlow = true) :
    t.Shows (actions.foldl perform t) := by
  induction actions generalizing t with
  | nil => exact ⟨.refl t, rfl, rfl, rfl, rfl⟩
  | cons action rest ih =>
    have first : t.Shows (t.perform action) := shows_perform (h action List.mem_cons_self)
    have after : (t.perform action).Shows (rest.foldl perform (t.perform action)) :=
      ih fun action mem => h action (List.mem_cons_of_mem _ mem)
    exact ⟨first.toAside.trans after.toAside, after.flow.trans first.flow,
      after.plan.trans first.plan, after.params.trans first.params,
      after.completed.trans first.completed⟩

theorem shows_begin {r : Registry} (registry : r = .builtin) (f : Feature) :
    t.Shows ((beginActions r f).foldl perform t) := by
  rw [registry]
  exact shows_foldl ((Registry.flow_shows f).1)

theorem completeFeature_notMem (h : ∀ action ∈ actions, action.showsFlow = true) :
    .completeFeature ∉ actions :=
  fun mem => absurd (h _ mem) (by decide)

theorem performAll_shows (h : ∀ action ∈ actions, action.showsFlow = true) :
    t.performAll actions = actions.foldl perform t :=
  performAll_eq_foldl (completeFeature_notMem h)

theorem performAll_begin {r : Registry} (registry : r = .builtin) (f : Feature) :
    t.performAll (beginActions r f) = (beginActions r f).foldl perform t := by
  refine performAll_shows ?_
  rw [registry]
  exact (Registry.flow_shows f).1

/-- The events that an operation may send to the tutorial. -/
inductive Sends (t : Tour) : Operation → String → Prop where
  | tutorial {claim event} : claim.getD t.session.tutorial = t.session.tutorial →
      Sends t (.tutorial claim event) event
  | dismiss : Sends t .dismiss "DISMISS"
  | select {features} : t.session.tutorial = "active.select" →
      Sends t (.select features) "CONTINUE"
  | complete {claim event given} : t.session.isActive = true →
      Sends t (.flow claim event given) "DONE"

/-- What a flow event comes to that is taken: another screen of the flow, the first screen of
the next planned flow, or `DONE` for the tutorial. -/
inductive Taken (t : Tour) (flow : Flow) (event : String) (params : FlowParams) : Tour → Prop where
  | screen :
      (∀ action ∈ (flow.answer t.registry event params).actions, action.showsFlow = true) →
      Taken t flow event params ((flow.answer t.registry event params).actions.foldl perform
        (t.flowMoved flow event params))
  | next {f : Feature} : (flow.answer t.registry event params).actions = [.completeFeature] →
      t.nextFeature = some f → f ≠ flow.feature →
      Taken t flow event params ((beginActions t.registry f).foldl perform
        (((t.flowMoved flow event params).markCompleted flow.feature).begin f))
  | last : (flow.answer t.registry event params).actions = [.completeFeature] →
      t.nextFeature = none →
      Taken t flow event params (((t.flowMoved flow event params).markCompleted
        flow.feature).withoutFlow.tutorial "DONE").2

theorem ne_of_featuresAfter {plan rest : List Feature} {g : Feature} (nodup : plan.Nodup)
    (h : featuresAfter f plan = g :: rest) : g ≠ f := by
  rintro rfl
  have again := (featuresAfter_of_cons nodup h).2
  rw [h] at again
  exact List.cons_ne_self _ _ again

theorem taken_of_handled (registry : t.registry = .builtin) (nodup : t.session.plan.Nodup)
    (hf : t.session.flow = some flow) {event : String} {params : FlowParams}
    (handled : (flow.answer t.registry event params).handled = true) :
    t.Taken flow event params ((t.flowMoved flow event params).performAll
      (flow.answer t.registry event params).actions) := by
  have move : (⟨flow.state, event, flow.answer t.registry event params⟩ : Machine.Move) ∈
    (Registry.builtin.flow flow.feature).moves := registry ▸ Machine.mem_moves handled
  obtain shows | completes := (Registry.flow_shows _).2 _ move
  · rw [performAll_shows shows]
    exact .screen shows
  dsimp only at completes
  have hm : (t.flowMoved flow event params).session.flow =
    some (flow.moved t.registry event (flow.answer t.registry event params)) := rfl
  -- The move shows in the flow and its parameters, not in what is planned behind it.
  have ahead : (t.flowMoved flow event params).session.ahead = t.session.ahead := by
    rw [ahead_of_flow hf]
    rfl
  rw [completes]
  cases ha : t.session.ahead with
  | nil =>
    have done := performAll_last (t := t.flowMoved flow event params) registry hm (ahead.trans ha)
    rw [done]
    exact .last completes (by simp [nextFeature, ha])
  | cons f rest =>
    have goesOn := performAll_next hm nodup (ahead.trans ha)
    -- `goesOn` marks the feature of the moved flow, which is that of the flow.
    change _ = (((t.flowMoved flow event params).markCompleted flow.feature).begin f).performAll
      (beginActions t.registry f) at goesOn
    have after : featuresAfter flow.feature t.session.plan = f :: rest :=
      (ahead_of_flow hf).symm.trans ha
    rw [goesOn, performAll_begin registry]
    exact .next completes (by simp [nextFeature, ha]) (ne_of_featuresAfter nodup after)

theorem step_flow_eq (t : Tour) (claim : Option String) (event : String)
    (given : Option FlowParams) :
    (t.step (.flow claim event given)).2 = t.opened (.flow claim event given) := by
  rw [step_eq]
  exact if_neg id

/-- A flow event that is not taken changes nothing. -/
theorem step_flow (registry : t.registry = .builtin) (nodup : t.session.plan.Nodup)
    (claim : Option String) (event : String) (given : Option FlowParams) :
    (t.step (.flow claim event given)).2 = t ∨
      ∃ flow, t.session.flow = some flow ∧ t.session.isActive = true ∧
        claim.getD flow.state = flow.state ∧
        (flow.answer t.registry event (given.getD t.session.params)).handled = true ∧
        t.Taken flow event (given.getD t.session.params)
          (t.step (.flow claim event given)).2 := by
  rw [step_flow_eq]
  unfold opened
  simp only [opening, openFlow]
  cases hf : t.session.flow with
  | none => exact .inl (performAll_nil t)
  | some flow =>
    dsimp only
    split
    · rename_i taken
      exact .inr ⟨flow, rfl, taken.1, taken.2.1, taken.2.2,
        taken_of_handled registry nodup hf taken.2.2⟩
    · exact .inl (performAll_nil t)

/-- A flow event leaves alone what the tutorial governs, or ends the last planned flow. -/
theorem Taken.aside {event : String} {params : FlowParams} (h : t.Taken flow event params next)
    (registry : t.registry = .builtin) :
    ∃ between, t.Aside between ∧ (next = between ∨ next = (between.tutorial "DONE").2) := by
  have moved : t.Aside (t.flowMoved flow event params) := ⟨rfl, rfl, rfl, rfl, rfl⟩
  cases h with
  | screen shows => exact ⟨_, moved.trans (shows_foldl shows).toAside, .inl rfl⟩
  | @next f =>
    have began : t.Aside (((t.flowMoved flow event params).markCompleted flow.feature).begin f) :=
      ⟨rfl, rfl, rfl, rfl, rfl⟩
    exact ⟨_, began.trans (shows_begin registry f).toAside, .inl rfl⟩
  | last => exact ⟨((t.flowMoved flow event params).markCompleted flow.feature).withoutFlow,
      ⟨rfl, rfl, rfl, rfl, rfl⟩, .inr rfl⟩

theorem aside_opened_select (registry : t.registry = .builtin) (features : List Feature) :
    t.Aside (t.opened (.select features)) := by
  unfold opened
  simp only [opening]
  cases Feature.distinct features with
  | nil =>
    simp only [openSelect, performAll_nil]
    exact ⟨rfl, rfl, rfl, rfl, rfl⟩
  | cons first rest =>
    have planned : t.Aside (t.planned first rest) := ⟨rfl, rfl, rfl, rfl, rfl⟩
    simp only [openSelect]
    rw [performAll_begin registry]
    exact planned.trans (shows_begin registry first).toAside

/-- Any operation but a fresh start leaves alone what the tutorial governs, and then sends the
tutorial one event at most. -/
theorem step_aside (registry : t.registry = .builtin) (nodup : t.session.plan.Nodup)
    {op : Operation} (h : op ≠ .restart ∧ op ≠ .reset) :
    ∃ next, t.Aside next ∧ ((t.step op).2 = next ∨
      ∃ event, t.Sends op event ∧ (t.step op).2 = (next.tutorial event).2) := by
  cases op with
  | tutorial claim event =>
    refine ⟨t, .refl t, ?_⟩
    rw [step_tutorial]
    split
    · rename_i same
      exact .inr ⟨event, .tutorial same, rfl⟩
    · exact .inl rfl
  | flow claim event given =>
    obtain stays | ⟨flow, -, active, -, -, taken⟩ := step_flow registry nodup claim event given
    · exact ⟨t, .refl t, .inl stays⟩
    · obtain ⟨next, aside, same | done⟩ := taken.aside registry
      · exact ⟨next, aside, .inl same⟩
      · exact ⟨next, aside, .inr ⟨"DONE", .complete active, done⟩⟩
  | select features =>
    have aside := aside_opened_select registry features
    refine ⟨_, aside, ?_⟩
    rw [step_eq]
    split
    · rename_i continues
      have selecting := continues.2
      rw [aside.tutorial] at selecting
      exact .inr ⟨"CONTINUE", .select selecting, (tutorialFrom_eq _ none "CONTINUE").symm⟩
    · exact .inl rfl
  | observe route => exact ⟨t.observe route, ⟨rfl, rfl, rfl, rfl, rfl⟩, .inl rfl⟩
  | dismiss => exact ⟨t, .refl t, .inr ⟨"DISMISS", .dismiss, rfl⟩⟩
  | restart => exact absurd rfl h.1
  | reset => exact absurd rfl h.2

theorem sound_run_enter (ops : List Operation) :
    Sound .builtin (fun _ flow => flow.Walked) ((enter .builtin).run ops) :=
  (sound_enter Flow.keeps_walked).run Flow.keeps_walked ops

theorem anew_eq (registry : t.registry = .builtin) : t.anew = ⟨.builtin, .fresh .builtin, []⟩ := by
  unfold anew
  rw [registry]

theorem step_restart (registry : t.registry = .builtin) :
    (t.step .restart).2 = (Tour.tutorial ⟨.builtin, .fresh .builtin, []⟩ "AUTH").2 := by
  rw [← anew_eq registry]
  rfl

theorem step_reset (registry : t.registry = .builtin) :
    (t.step .reset).2 = enter .builtin := by
  rw [← registry]
  rfl

/-- The session that a restart leads to. -/
def restartedSession : Session where
  tutorial := "active.select"
  screen := { tutorial := some "tutorial-active", feature := some "features-selection" }

/-- The session that is entered, and that a reset leads to. -/
def enteredSession : Session where
  tutorial := "idle"
  screen := { tutorial := some "tutorial-idle", feature := some "features-selection" }
  route := some ⟨"vault.cluster", []⟩

theorem fresh_starts :
    ((Tour.tutorial ⟨.builtin, .fresh .builtin, []⟩ "AUTH").2.session = restartedSession ∧
      (Tour.tutorial ⟨.builtin, .fresh .builtin, []⟩ "AUTH").2.intents =
        [.mount .tutorial "tutorial-active", .mount .feature "features-selection"]) ∧
    (enter .builtin).session = enteredSession ∧
      (enter .builtin).intents = [.goTo "vault.cluster", .mount .feature "features-selection",
        .mount .tutorial "tutorial-idle"] := by
  decide +kernel

theorem session_enter : (enter .builtin).session = enteredSession := fresh_starts.2.1

theorem session_of_restart (registry : t.registry = .builtin) :
    (t.step .restart).2.session = restartedSession := by
  rw [step_restart registry]
  exact fresh_starts.1.1

theorem intents_of_restart (registry : t.registry = .builtin) : (t.step .restart).2.intents =
    [.mount .tutorial "tutorial-active", .mount .feature "features-selection"] := by
  rw [step_restart registry]
  exact fresh_starts.1.2

theorem session_of_reset (registry : t.registry = .builtin) :
    (t.step .reset).2.session = enteredSession := by
  rw [step_reset registry]
  exact fresh_starts.2.1

theorem intents_of_reset (registry : t.registry = .builtin) : (t.step .reset).2.intents =
    [.goTo "vault.cluster", .mount .feature "features-selection",
      .mount .tutorial "tutorial-idle"] := by
  rw [step_reset registry]
  exact fresh_starts.2.2

/-- What fresh starts establish, changes aside from the tutorial keep, and every event for the
tutorial keeps, holds after every run. -/
theorem run_enter_induction {P : Tour → Prop} (entered : P (enter .builtin))
    (restarted : P (Tour.tutorial ⟨.builtin, .fresh .builtin, []⟩ "AUTH").2)
    (aside : ∀ {t next}, t.Aside next → P t → P next)
    (tutorial : ∀ {t event}, t.registry = .builtin → P t → P (t.tutorial event).2)
    (ops : List Operation) : P ((enter .builtin).run ops) := by
  induction ops using List.reverseRecOn with
  | nil => exact entered
  | append_singleton ops op ih =>
    have sound := sound_run_enter ops
    rw [run_concat]
    by_cases restart : op = .restart
    · rw [restart, step_restart sound.registry]
      exact restarted
    by_cases reset : op = .reset
    · rw [reset, step_reset sound.registry]
      exact entered
    obtain ⟨next, alone, same | ⟨event, -, sent⟩⟩ :=
      step_aside sound.registry sound.plan ⟨restart, reset⟩
    · rw [same]
      exact aside alone ih
    · rw [sent]
      exact tutorial (alone.registry.trans sound.registry) (aside alone ih)

end Tour

end GuidedTour
