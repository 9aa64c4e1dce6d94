import GuidedTour.Proofs.Tour.Builtin

/-! A pause keeps the operator's place. The route of the moment is remembered when the built-in
tutorial is paused, and nothing that happens during the pause touches it: flow events are not
taken, the paused tutorial passes a second `PAUSE` by, and a new plan shows its screens beside.
Whatever ends the pause goes back to that route first, and forgets it. -/
namespace GuidedTour

/-- Touches neither the route nor the one that is remembered. -/
def Action.isQuiet : Action → Bool
  | navigate _ | handlePaused | handleResume => false
  | _ => true

namespace Registry

/-- Nothing but `PAUSE` leads into a pause, where the route is remembered. What leads out of it
goes back to that route first. -/
theorem moves_of_pause : ∀ move ∈ builtin.tutorial.moves,
    (move.answer.state = "paused" → move.source ≠ "paused" ∧
      move.answer.actions = [.clear .feature, .clear .step, .clear .detail,
        .mount .tutorial "tutorial-paused", .handlePaused]) ∧
    (move.source = "paused" → move.event ∈ ["CONTINUE", "DONE", "DISMISS"] ∧
      move.answer.state ≠ "paused" ∧ move.answer.actions.head? = some .handleResume ∧
      ∀ action ∈ move.answer.actions.tail, action.isQuiet = true) ∧
    (move.source ≠ "paused" → move.answer.state ≠ "paused" →
      .handlePaused ∉ move.answer.actions) := by
  decide +kernel

theorem pause_answered : ∀ state ∈ builtin.tutorial.states.names,
    ((builtin.tutorial.transition state "PAUSE" {}).handled = true ↔
      state ≠ "paused" ∧ state ≠ "dismissed") ∧
    ((builtin.tutorial.transition state "PAUSE" {}).handled = true →
      (builtin.tutorial.transition state "PAUSE" {}).state = "paused") := by
  decide +kernel

theorem handled_in_pause : ∀ event ∈ ["CONTINUE", "DONE", "DISMISS"],
    (builtin.tutorial.transition "paused" event {}).handled = true := by
  decide +kernel

end Registry

namespace Tour

variable {t next : Tour} {actions renders : List Action} {op : Operation}

/-- Only regions of the screen are rendered. -/
def Renders (renders : List Action) : Prop :=
  ∀ intent ∈ renders, ∃ region component, intent = .render region component

theorem Renders.append {more : List Action} (h : Renders renders) (h' : Renders more) :
    Renders (renders ++ more) := by
  intro intent mem
  obtain before | after := List.mem_append.1 mem
  · exact h intent before
  · exact h' intent after

/-- The screen is all that is told about, and the places are left alone. -/
structure Calm (t next : Tour) : Prop where
  intents : ∃ renders, Renders renders ∧ next.intents = t.intents ++ renders
  route : next.session.route = t.session.route
  resumeRoute : next.session.resumeRoute = t.session.resumeRoute

theorem calm_perform {action : Action} (h : action.isQuiet = true) : t.Calm (t.perform action) := by
  cases action with
  | render region component =>
    exact ⟨⟨[.render region component], by simp [Renders], rfl⟩, rfl, rfl⟩
  | navigate route => cases h
  | handlePaused => cases h
  | handleResume => cases h
  | _ => exact ⟨⟨[], by simp [Renders], (List.append_nil _).symm⟩, rfl, rfl⟩

theorem calm_foldl (h : ∀ action ∈ actions, action.isQuiet = true) :
    t.Calm (actions.foldl perform t) := by
  induction actions generalizing t with
  | nil => exact ⟨⟨[], by simp [Renders], (List.append_nil _).symm⟩, rfl, rfl⟩
  | cons action rest ih =>
    obtain ⟨⟨first, shown, intents⟩, route, resumeRoute⟩ :=
      calm_perform (t := t) (h action List.mem_cons_self)
    obtain ⟨⟨more, shownToo, after⟩, routeToo, resumeRouteToo⟩ :=
      @ih (t.perform action) fun action mem => h action (List.mem_cons_of_mem _ mem)
    refine ⟨⟨first ++ more, shown.append shownToo, ?_⟩, routeToo.trans route,
      resumeRouteToo.trans resumeRoute⟩
    rw [List.foldl_cons, after, intents, List.append_assoc]

/-- Goes back to a place, if there is one: this is told first, and nothing is remembered any
longer. -/
structure GoesBack (place : Option Route) (t next : Tour) : Prop where
  intents : ∃ renders, Renders renders ∧
    next.intents = t.intents ++ (place.toList.map .navigate ++ renders)
  route : next.session.route = place.or t.session.route
  resumeRoute : next.session.resumeRoute = none

theorem goesBack_perform (t : Tour) :
    t.GoesBack t.session.resumeRoute (t.perform .handleResume) := by
  cases place : t.session.resumeRoute with
  | none =>
    have same : t.perform .handleResume = t := by simp only [perform, place]
    rw [same]
    exact ⟨⟨[], by simp [Renders], (List.append_nil _).symm⟩, rfl, place⟩
  | some route =>
    have back : t.perform .handleResume =
        { t with session.resumeRoute := none, session.route := some route }.queue
          (.navigate route) := by
      simp only [perform, place]
    rw [back]
    exact ⟨⟨[], by simp [Renders], rfl⟩, rfl, rfl⟩

theorem GoesBack.calm {place : Option Route} {between : Tour} (h : t.GoesBack place between)
    (calm : between.Calm next) : t.GoesBack place next := by
  obtain ⟨first, shown, intents⟩ := h.intents
  obtain ⟨more, shownToo, after⟩ := calm.intents
  refine ⟨⟨first ++ more, shown.append shownToo, ?_⟩, calm.route.trans h.route,
    calm.resumeRoute.trans h.resumeRoute⟩
  rw [after, intents]
  simp only [List.append_assoc]

theorem goesBack_foldl (first : actions.head? = some .handleResume)
    (quiet : ∀ action ∈ actions.tail, action.isQuiet = true) :
    t.GoesBack t.session.resumeRoute (actions.foldl perform t) := by
  obtain ⟨rest, rfl⟩ := List.head?_eq_some_iff.1 first
  exact (goesBack_perform t).calm (calm_foldl quiet)

def RemembersInPause (t : Tour) : Prop :=
  t.session.tutorial ≠ "paused" → t.session.resumeRoute = none

theorem resumeRoute_perform {action : Action} (h : action ≠ .handlePaused)
    (forgot : t.session.resumeRoute = none) :
    (t.perform action).session.resumeRoute = none := by
  cases action with
  | handlePaused => exact absurd rfl h
  | handleResume => exact (goesBack_perform t).resumeRoute
  | _ => exact forgot

theorem resumeRoute_foldl (h : .handlePaused ∉ actions)
    (forgot : t.session.resumeRoute = none) :
    (actions.foldl perform t).session.resumeRoute = none := by
  induction actions generalizing t with
  | nil => exact forgot
  | cons action rest ih =>
    rw [List.mem_cons, not_or] at h
    exact ih h.2 (resumeRoute_perform (Ne.symm h.1) forgot)

theorem remembersInPause_tutorial (registry : t.registry = .builtin) {event : String}
    (h : t.RemembersInPause) : (t.tutorial event).2.RemembersInPause := by
  obtain ⟨-, same⟩ | ⟨-, answer, move, moved⟩ := tutorial_cases registry event
  · rw [same]
    exact h
  rw [moved]
  intro leaves
  rw [foldl_perform_tutorial] at leaves
  by_cases paused : t.session.tutorial = "paused"
  · obtain ⟨-, -, first, quiet⟩ := (Registry.moves_of_pause _ move).2.1 paused
    exact (goesBack_foldl first quiet).resumeRoute
  · exact resumeRoute_foldl ((Registry.moves_of_pause _ move).2.2 paused leaves) (h paused)

theorem remembersInPause_run (ops : List Operation) :
    ((enter .builtin).run ops).RemembersInPause := by
  refine run_enter_induction ?_ ?_ ?_ ?_ ops
  · intro _
    rw [session_enter]
    rfl
  · exact remembersInPause_tutorial rfl fun _ => rfl
  · intro t next aside h
    unfold RemembersInPause
    rw [aside.tutorial, aside.resumeRoute]
    exact h
  · exact fun registry h => remembersInPause_tutorial registry h

theorem tutorial_pause (registry : t.registry = .builtin)
    (handled : (t.tutorialOutcome "PAUSE").handled = true)
    (known : Registry.builtin.tutorial.contains t.session.tutorial = true) :
    (t.tutorial "PAUSE").2.session.tutorial = "paused" ∧
      (t.tutorial "PAUSE").2.session.resumeRoute = t.session.route := by
  have same := tutorialOutcome_builtin registry "PAUSE"
  have paused : (t.tutorial "PAUSE").2.session.tutorial = "paused" := by
    rw [same] at handled
    rw [tutorial_tutorial registry, same]
    exact (Registry.pause_answered _ (Machine.mem_names_of_contains known)).2 handled
  refine ⟨paused, ?_⟩
  obtain ⟨not, -⟩ | ⟨-, answer, move, moved⟩ := tutorial_cases registry "PAUSE"
  · rw [handled] at not
    cases not
  rw [moved, foldl_perform_tutorial] at paused
  obtain ⟨-, actions⟩ := (Registry.moves_of_pause _ move).1 paused
  rw [moved, actions]
  rfl

end Tour

/-- The operations that end a pause: an event that the paused tutorial handles, or a fresh
start. -/
def Operation.EndsPause : Operation → Prop
  | .tutorial claim event =>
    claim.getD "paused" = "paused" ∧ event ∈ ["CONTINUE", "DONE", "DISMISS"]
  | .dismiss | .restart | .reset => True
  | .flow .. | .select _ | .observe _ => False

namespace Tour

/-- An operation in a pause ends it and goes back, or leaves the pause and what it remembers
as they are. -/
structure Passes (t : Tour) (op : Operation) : Prop where
  ends : op.EndsPause → (t.step op).2.session.tutorial ≠ "paused"
  goesBack : op.EndsPause → op ≠ .restart → op ≠ .reset →
    t.GoesBack t.session.resumeRoute (t.step op).2
  stays : ¬op.EndsPause → (t.step op).2.session.tutorial = "paused"
  remembers : ¬op.EndsPause → (t.step op).2.session.resumeRoute = t.session.resumeRoute

variable {t : Tour} {op : Operation}

theorem tutorialOutcome_of_paused (registry : t.registry = .builtin)
    (paused : t.session.tutorial = "paused") (event : String) :
    t.tutorialOutcome event = Registry.builtin.tutorial.transition "paused" event {} := by
  rw [tutorialOutcome_builtin registry, paused]

theorem leaves_pause (registry : t.registry = .builtin) (paused : t.session.tutorial = "paused")
    {event : String} (h : event ∈ ["CONTINUE", "DONE", "DISMISS"]) :
    (t.tutorial event).2.session.tutorial ≠ "paused" ∧
      t.GoesBack t.session.resumeRoute (t.tutorial event).2 := by
  have handled := Registry.handled_in_pause event h
  rw [← tutorialOutcome_of_paused registry paused] at handled
  obtain ⟨not, -⟩ | ⟨-, answer, move, moved⟩ := tutorial_cases registry event
  · rw [handled] at not
    cases not
  obtain ⟨-, leaves, first, quiet⟩ := (Registry.moves_of_pause _ move).2.1 paused
  rw [moved, foldl_perform_tutorial]
  obtain ⟨intents, route, resumeRoute⟩ :=
    goesBack_foldl (t := { t with session.tutorial := answer.state }) first quiet
  exact ⟨leaves, intents, route, resumeRoute⟩

theorem passed_by_pause (registry : t.registry = .builtin)
    (paused : t.session.tutorial = "paused") {event : String}
    (h : event ∉ ["CONTINUE", "DONE", "DISMISS"]) : (t.tutorial event).2 = t := by
  obtain ⟨-, same⟩ | ⟨-, answer, move, -⟩ := tutorial_cases registry event
  · exact same
  · exact absurd ((Registry.moves_of_pause _ move).2.1 paused).1 h

theorem passes_of_same (h : ¬op.EndsPause) (paused : t.session.tutorial = "paused")
    (aside : t.Aside (t.step op).2) : t.Passes op where
  ends ends := absurd ends h
  goesBack ends := absurd ends h
  stays _ := aside.tutorial.trans paused
  remembers _ := aside.resumeRoute

theorem passes_tutorial (registry : t.registry = .builtin)
    (paused : t.session.tutorial = "paused") (claim : Option String) (event : String) :
    t.Passes (.tutorial claim event) := by
  have step := t.step_tutorial claim event
  rw [paused] at step
  by_cases ends : (Operation.tutorial claim event).EndsPause
  · have leaves := leaves_pause registry paused ends.2
    rw [if_pos ends.1] at step
    rw [← step] at leaves
    exact ⟨fun _ => leaves.1, fun _ _ _ => leaves.2, fun h => absurd ends h, fun h => absurd ends h⟩
  · refine passes_of_same ends paused ?_
    rw [step]
    split
    · rename_i claimed
      rw [passed_by_pause registry paused fun mem => ends ⟨claimed, mem⟩]
      exact .refl t
    · exact .refl t

theorem passes_step (registry : t.registry = .builtin) (nodup : t.session.plan.Nodup)
    (paused : t.session.tutorial = "paused") (op : Operation) : t.Passes op := by
  cases op with
  | tutorial claim event => exact passes_tutorial registry paused claim event
  | flow claim event given =>
    refine passes_of_same id paused ?_
    obtain same | ⟨flow, -, active, -⟩ := step_flow registry nodup claim event given
    · rw [same]
      exact .refl t
    · -- A paused tutorial takes no flow events.
      unfold Session.isActive at active
      rw [paused] at active
      cases active
  | select features =>
    refine passes_of_same id paused ?_
    have carriesOn : Operation.select features ≠ .restart ∧ Operation.select features ≠ .reset := by
      simp
    obtain ⟨next, aside, same | ⟨event, sends, -⟩⟩ := step_aside registry nodup carriesOn
    · rw [same]
      exact aside
    · cases sends with
      | select selecting =>
        -- A plan moves the tutorial on only where it waits for one.
        rw [paused] at selecting
        exact absurd selecting (by decide)
  | observe route => exact passes_of_same id paused ⟨rfl, rfl, rfl, rfl, rfl⟩
  | dismiss =>
    have handled : "DISMISS" ∈ ["CONTINUE", "DONE", "DISMISS"] := by decide
    have leaves := leaves_pause registry paused handled
    exact ⟨fun _ => leaves.1, fun _ _ _ => leaves.2, fun h => absurd trivial h,
      fun h => absurd trivial h⟩
  | restart =>
    refine ⟨fun _ => ?_, fun _ h => absurd rfl h, fun h => absurd trivial h,
      fun h => absurd trivial h⟩
    rw [session_of_restart registry]
    decide
  | reset =>
    refine ⟨fun _ => ?_, fun _ _ h => absurd rfl h, fun h => absurd trivial h,
      fun h => absurd trivial h⟩
    rw [session_of_reset registry]
    decide

/-- The tutorial is paused, and still is after each of the operations. -/
def StaysPaused (t : Tour) : List Operation → Prop
  | [] => t.session.tutorial = "paused"
  | op :: ops => t.session.tutorial = "paused" ∧ (t.step op).2.StaysPaused ops

instance decidableStaysPaused : (t : Tour) → (ops : List Operation) → Decidable (t.StaysPaused ops)
  | _, [] => inferInstanceAs (Decidable (_ = _))
  | t, op :: ops =>
    have := decidableStaysPaused (t.step op).2 ops
    inferInstanceAs (Decidable (_ ∧ _))

theorem StaysPaused.paused {ops : List Operation} (h : t.StaysPaused ops) :
    t.session.tutorial = "paused" := by
  cases ops with
  | nil => exact h
  | cons op ops => exact h.1

/-- A whole pause, of any length, keeps what it remembers. -/
theorem StaysPaused.remembers {ops : List Operation} (h : t.StaysPaused ops)
    (sound : Sound .builtin (fun _ flow => flow.Walked) t) :
    (t.run ops).session.tutorial = "paused" ∧
      (t.run ops).session.resumeRoute = t.session.resumeRoute := by
  induction ops generalizing t with
  | nil => exact ⟨h, rfl⟩
  | cons op ops ih =>
    have passes := passes_step sound.registry sound.plan h.1 op
    have goesOn : ¬op.EndsPause := fun ends => passes.ends ends h.2.paused
    have after := ih h.2 (sound.step Flow.keeps_walked op)
    rw [passes.remembers goesOn] at after
    exact after

/-- Outside of a pause no route is remembered. `PAUSE` is handled in every state but a pause
and a dismissal, and remembers the route of the moment through all that happens until the
pause ends. Whatever event ends it tells to go back to that route, before anything else and
once, or if there was none tells of no route; then nothing is remembered. What ends a pause is
`CONTINUE`, `DONE`, a dismissal or a fresh start, and nothing else. -/
theorem pause_keeps_place (ops : List Operation) :
    let t := (enter .builtin).run ops
    (t.session.tutorial ≠ "paused" → t.session.resumeRoute = none) ∧
    ((t.tutorial "PAUSE").1.handled = true ↔
      t.session.tutorial ≠ "paused" ∧ t.session.tutorial ≠ "dismissed") ∧
    ((t.tutorial "PAUSE").1.handled = true →
      (t.tutorial "PAUSE").2.session.tutorial = "paused" ∧
      (t.tutorial "PAUSE").2.session.resumeRoute = t.session.route ∧
      ∀ during, (t.tutorial "PAUSE").2.StaysPaused during →
        let q := (t.tutorial "PAUSE").2.run during
        q.session.resumeRoute = t.session.route ∧
        ∀ op, op ≠ .restart → op ≠ .reset → (q.step op).2.session.tutorial ≠ "paused" →
          q.GoesBack t.session.route (q.step op).2) ∧
    (t.session.tutorial = "paused" →
      ∀ op, (t.step op).2.session.tutorial ≠ "paused" ↔ op.EndsPause) := by
  intro t
  have sound : Sound .builtin (fun _ flow => flow.Walked) t := sound_run_enter ops
  have answer : (t.tutorial "PAUSE").1 = t.tutorialOutcome "PAUSE" := by
    unfold tutorial tutorialFrom
    simp only [ne_eq, not_true_eq_false, if_false]
    split <;> rfl
  rw [answer]
  refine ⟨remembersInPause_run ops, ?_, fun handled => ?_, fun paused op => ?_⟩
  · have same : t.tutorialOutcome "PAUSE" =
        Registry.builtin.tutorial.transition t.session.tutorial "PAUSE" {} := by
      rw [← sound.registry]
      rfl
    rw [same]
    exact (Registry.pause_answered _ (Machine.mem_names_of_contains sound.tutorial)).1
  · obtain ⟨paused, place⟩ := tutorial_pause sound.registry handled sound.tutorial
    refine ⟨paused, place, fun during stays => ?_⟩
    have soundPaused : Sound .builtin (fun _ flow => flow.Walked) (t.tutorial "PAUSE").2 :=
      sound.step Flow.keeps_walked (.tutorial none "PAUSE")
    have soundThen := soundPaused.run Flow.keeps_walked during
    obtain ⟨stillPaused, remembers⟩ := stays.remembers soundPaused
    rw [place] at remembers
    refine ⟨remembers, fun op restart reset leaves => ?_⟩
    have passes := passes_step soundThen.registry soundThen.plan stillPaused op
    have back := passes.goesBack (Classical.byContradiction fun goesOn =>
      leaves (passes.stays goesOn)) restart reset
    rw [remembers] at back
    exact back
  · have passes := passes_step sound.registry sound.plan paused op
    exact ⟨fun leaves => Classical.byContradiction fun goesOn => leaves (passes.stays goesOn),
      passes.ends⟩

/-- An operator who has gone on to a screen of policies. -/
def browsing : List Operation :=
  [.restart, .observe ⟨"vault.cluster.policies.create", ["acl"]⟩]

/-- Another route, a second `PAUSE`, a new plan and an event for it. -/
def elsewhere : List Operation :=
  [.observe ⟨"vault.cluster.secrets", []⟩, .tutorial none "PAUSE", .select [.tools],
    .flow none "CONTINUE" none]

/-- None of this makes the tour forget the place. -/
theorem pause_keeps_place_elsewhere :
    (((enter .builtin).run browsing).tutorial "PAUSE").1.handled = true ∧
    (((enter .builtin).run browsing).tutorial "PAUSE").2.StaysPaused elsewhere ∧
    ((((enter .builtin).run browsing).tutorial "PAUSE").2.run elsewhere).GoesBack
      (some ⟨"vault.cluster.policies.create", ["acl"]⟩)
      (((((enter .builtin).run browsing).tutorial "PAUSE").2.run elsewhere).step
        (.tutorial none "DONE")).2 := by
  have handled : (((enter .builtin).run browsing).tutorial "PAUSE").1.handled = true := by
    decide +kernel
  have stays : (((enter .builtin).run browsing).tutorial "PAUSE").2.StaysPaused elsewhere := by
    decide +kernel
  have leaves : (((((enter .builtin).run browsing).tutorial "PAUSE").2.run elsewhere).step
      (.tutorial none "DONE")).2.session.tutorial ≠ "paused" := by
    decide +kernel
  have place : ((enter .builtin).run browsing).session.route =
      some ⟨"vault.cluster.policies.create", ["acl"]⟩ := by
    decide +kernel
  obtain ⟨-, -, keeps, -⟩ := pause_keeps_place browsing
  have back := ((keeps handled).2.2 elsewhere stays).2 _ (by simp) (by simp) leaves
  rw [place] at back
  exact ⟨handled, stays, back⟩

end Tour

end GuidedTour
