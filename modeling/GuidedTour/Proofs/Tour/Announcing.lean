import GuidedTour.Proofs.Tour.Answering
import GuidedTour.Proofs.Tour.Staleness

/-! What an event announces. The answer to an event lists actions, and the queue gets intents. An
answer asks for its intents in the open, with two exceptions: to leave a pause asks for the
remembered route without naming it, and to complete a flow lets something else speak, the first
screen of the flow that follows or the end of the tutorial. -/
namespace GuidedTour

/-- What an answer asks for outside of the session. -/
def Outcome.intents (outcome : Outcome) : List Action := outcome.actions.filter (·.isIntent)

/-- Whatever leads out of a pause, and nothing else, goes back to the remembered route. -/
theorem Registry.resuming_moves : ∀ move ∈ builtin.tutorial.moves,
    (move.source = "paused" → move.answer.state ≠ "paused" ∧
      move.answer.actions.head? = some .handleResume ∧
      .handleResume ∉ move.answer.actions.tail) ∧
    (move.source ≠ "paused" → .handleResume ∉ move.answer.actions) := by
  decide +kernel

namespace Tour

variable {t next : Tour} {actions : List Action} {flow : Flow} {event : String}
  {params : FlowParams}

/-- The way back that leaving a pause asks for. -/
def wayBack (t : Tour) (outcome : Outcome) : List Action :=
  if t.session.tutorial = "paused" ∧ outcome.state ≠ "paused" then
    t.session.resumeRoute.toList.map .navigate
  else []

/-- What is asked for after the active flow is completed. -/
def afterwards (t : Tour) : List Action :=
  match t.nextFeature with
  | some f => (beginActions t.registry f).filter (·.isIntent)
  | none => (t.tutorialOutcome "DONE").intents

theorem intents_perform {action : Action} (h : action ≠ .handleResume) :
    (t.perform action).intents = t.intents ++ [action].filter (·.isIntent) := by
  cases action with
  | render region component => rfl
  | navigate route => rfl
  | handleResume => exact absurd rfl h
  | _ => exact (List.append_nil _).symm

theorem intents_foldl (h : .handleResume ∉ actions) :
    (actions.foldl perform t).intents = t.intents ++ actions.filter (·.isIntent) := by
  induction actions generalizing t with
  | nil => exact (List.append_nil _).symm
  | cons action rest ih =>
    rw [List.mem_cons, not_or] at h
    rw [List.foldl_cons, ih h.2, intents_perform (Ne.symm h.1), List.append_assoc,
      ← List.filter_append]
    rfl

theorem intents_handleResume (t : Tour) : (t.perform .handleResume).intents =
    t.intents ++ t.session.resumeRoute.toList.map .navigate := by
  unfold perform
  cases t.session.resumeRoute with
  | none => exact (List.append_nil _).symm
  | some route => rfl

theorem handleResume_notMem (registry : t.registry = .builtin)
    (awake : t.session.tutorial ≠ "paused") (event : String) :
    .handleResume ∉ (t.tutorialOutcome event).actions := by
  cases handled : (t.tutorialOutcome event).handled with
  | true =>
    have move := Machine.mem_moves handled
    rw [registry] at move
    have quiet := (Registry.resuming_moves _ move).2 awake
    rw [← registry] at quiet
    exact quiet
  | false =>
    have stays : t.tutorialOutcome event = .unhandled t.session.tutorial :=
      Machine.transition_unhandled handled
    rw [stays]
    exact List.not_mem_nil

/-- A move of the tutorial announces the way back, if it leaves a pause, and then what its answer
lists. -/
theorem intents_tutorialMoved (registry : t.registry = .builtin)
    (handled : (t.tutorialOutcome event).handled = true) :
    ((t.tutorialOutcome event).actions.foldl perform (t.tutorialMoved event)).intents =
      t.intents ++ (t.wayBack (t.tutorialOutcome event) ++ (t.tutorialOutcome event).intents) := by
  unfold wayBack Outcome.intents
  by_cases paused : t.session.tutorial = "paused"
  · have move : (⟨t.session.tutorial, event, t.tutorialOutcome event⟩ : Machine.Move) ∈
      Registry.builtin.tutorial.moves := registry ▸ Machine.mem_moves handled
    obtain ⟨leaves, first, once⟩ := (Registry.resuming_moves _ move).1 paused
    dsimp only at leaves first once
    obtain ⟨rest, asks⟩ := List.head?_eq_some_iff.1 first
    rw [if_pos ⟨paused, leaves⟩]
    rw [asks, List.tail_cons] at once
    rw [asks, List.foldl_cons, intents_foldl once, intents_handleResume, List.append_assoc]
    rfl
  · rw [if_neg fun leaves => paused leaves.1,
      intents_foldl (handleResume_notMem registry paused event)]
    rfl

theorem awake_of_isActive (active : t.session.isActive = true) : t.session.tutorial ≠ "paused" := by
  intro paused
  unfold Session.isActive at active
  rw [paused] at active
  exact absurd active (by decide)

theorem handleResume_notMem_of_shows (h : ∀ action ∈ actions, action.showsFlow = true) :
    .handleResume ∉ actions :=
  fun mem => absurd (h _ mem) (by decide)

/-- A flow event that is taken announces what its answer lists, and after the last screen what
follows the flow. -/
theorem Taken.intents (h : t.Taken flow event params next) (registry : t.registry = .builtin)
    (active : t.session.isActive = true)
    (handled : (flow.answer t.registry event params).handled = true) :
    next.intents = t.intents ++ ((flow.answer t.registry event params).intents ++
      if (flow.answer t.registry event params).state = "complete" then t.afterwards else []) := by
  have move : (⟨flow.state, event, flow.answer t.registry event params⟩ : Machine.Move) ∈
    (Registry.builtin.flow flow.feature).moves := registry ▸ Machine.mem_moves handled
  have ends := Registry.completes_iff _ _ move
  dsimp only at ends
  -- A completion asks for nothing itself.
  have silent (completes : (flow.answer t.registry event params).actions = [.completeFeature]) :
      (flow.answer t.registry event params).intents = [] := by
    unfold Outcome.intents
    rw [completes]
    rfl
  cases h with
  | screen shows =>
    have goesOn : (flow.answer t.registry event params).state ≠ "complete" := by
      intro last
      rw [ends.1 last] at shows
      exact completeFeature_notMem shows List.mem_cons_self
    rw [if_neg goesOn, intents_foldl (handleResume_notMem_of_shows shows), List.append_nil]
    rfl
  | @next f completes planned =>
    have shows : ∀ action ∈ beginActions t.registry f, action.showsFlow = true := by
      rw [registry]
      exact (Registry.flow_shows f).1
    rw [if_pos (ends.2 completes), silent completes, afterwards, planned,
      intents_foldl (handleResume_notMem_of_shows shows)]
    rfl
  | last completes planned =>
    have silence := handleResume_notMem registry (awake_of_isActive active) "DONE"
    rw [if_pos (ends.2 completes), silent completes, afterwards, planned]
    rw [tutorial_snd (t := ((t.flowMoved flow event params).markCompleted
      flow.feature).withoutFlow) registry]
    -- The completion touches nothing that the tutorial's answer depends on.
    exact intents_foldl (t := (((t.flowMoved flow event params).markCompleted
      flow.feature).withoutFlow).tutorialMoved "DONE") silence

/-- Every event has an answer. If it is not taken it changes nothing. If it is, the queue gets, in
this order, the way back out of a pause, the intents of the answer, and after the completion of a
flow those of the first screen of the next planned one, or else of the end of the tutorial. -/
theorem announced_in_order (h : t.Reachable) :
    (∀ claim event, ∃ outcome next, t.step (.tutorial claim event) = (some outcome, next) ∧
      (outcome.handled = false → next = t) ∧
      (outcome.handled = true → next.session.tutorial = outcome.state ∧
        next.intents = t.intents ++ (t.wayBack outcome ++ outcome.intents))) ∧
    ∀ claim event given, ∃ outcome next,
      t.step (.flow claim event given) = (some outcome, next) ∧
      (outcome.handled = false → next = t) ∧
      (outcome.handled = true → next.intents = t.intents ++ (outcome.intents ++
        if outcome.state = "complete" then t.afterwards else [])) := by
  have sound := h.sound
  refine ⟨fun claim event => ?_, fun claim event given => ?_⟩
  · obtain ⟨state, stays⟩ | ⟨handled, moved⟩ := step_tutorial_cases sound.registry claim event
    · exact ⟨_, _, stays, fun _ => rfl, fun handled => by cases handled⟩
    · refine ⟨_, _, moved, fun not => ?_, fun _ => ⟨?_, ?_⟩⟩
      · rw [handled] at not
        cases not
      · exact foldl_perform_tutorial _ _
      · exact intents_tutorialMoved sound.registry handled
  · obtain ⟨state, stays⟩ | ⟨flow, next, -, active, -, handled, moved, taken⟩ :=
      step_flow_cases sound.registry sound.plan claim event given
    · exact ⟨_, _, stays, fun _ => rfl, fun handled => by cases handled⟩
    · refine ⟨_, _, moved, fun not => ?_, fun _ => ?_⟩
      · rw [handled] at not
        cases not
      · exact taken.intents sound.registry active handled

theorem Reachable.step (h : t.Reachable) (op : Operation) : (t.step op).2.Reachable := by
  obtain ⟨start, ops, origin, rfl⟩ := h
  exact ⟨start, ops ++ [op], origin, (run_append start ops [op]).symm⟩

theorem Reachable.run (h : t.Reachable) (ops : List Operation) : (t.run ops).Reachable := by
  obtain ⟨start, before, origin, rfl⟩ := h
  exact ⟨start, before ++ ops, origin, (run_append start before ops).symm⟩

/-- A tour of policies and tools, paused on a screen that the operator went to. -/
def strolling : List Operation :=
  [.restart, .select [.policies, .tools], .observe ⟨"vault.cluster.policies.create", []⟩,
    .tutorial none "PAUSE"]

/-- The pause is left for the route of before, and policies are followed by the first screen of
tools. -/
theorem announced_in_order_strolling :
    let t := (enter .builtin).run strolling
    let resumed := (t.step (.tutorial none "CONTINUE")).2
    let done := (resumed.step (.flow none "DONE" none)).2
    resumed.intents = t.intents ++
      [.goTo "vault.cluster.policies.create", .mount .tutorial "tutorial-active"] ∧
    done.intents = resumed.intents ++ [.goTo "vault.cluster.tools", .mount .feature "tools-wrap"] := by
  intro t resumed done
  have reached : t.Reachable := ⟨_, strolling, .inl rfl, rfl⟩
  have goesOn : resumed.Reachable := reached.step _
  obtain ⟨answer, next, sent, -, announced⟩ :=
    (announced_in_order reached).1 none "CONTINUE"
  obtain ⟨last, after, ended, -, announcedThen⟩ :=
    (announced_in_order goesOn).2 none "DONE" none
  have answers : (t.step (.tutorial none "CONTINUE")).1 = some ⟨"active.feature",
        [.handleResume, .mount .tutorial "tutorial-active"], true⟩ ∧
      (resumed.step (.flow none "DONE" none)).1 =
        some ⟨"complete", [.completeFeature], true⟩ ∧
      t.session.tutorial = "paused" ∧
      t.session.resumeRoute = some ⟨"vault.cluster.policies.create", []⟩ ∧
      resumed.afterwards = [.goTo "vault.cluster.tools", .mount .feature "tools-wrap"] := by
    decide +kernel
  obtain ⟨first, second, paused, place, following⟩ := answers
  rw [sent] at first
  rw [ended] at second
  obtain rfl := Option.some.inj first
  obtain rfl := Option.some.inj second
  have back := (announced rfl).2
  have onward := announcedThen rfl
  rw [wayBack, if_pos ⟨paused, by decide⟩, place] at back
  rw [if_pos rfl, following] at onward
  have resumedNext : resumed = next := congrArg Prod.snd sent
  have doneAfter : done = after := congrArg Prod.snd ended
  rw [resumedNext, doneAfter]
  exact ⟨back, resumedNext ▸ onward⟩

end Tour

end GuidedTour
