import GuidedTour.Proofs.Tour.Pausing

/-! Dismissal is final. It is handled in every state of the built-in tutorial, and leaves nothing
of the plan, the screen and the remembered route. After it the tutorial takes no event but another
dismissal. A plan may still be selected, and its first screen be shown, but a tutorial that is
not active lets no event through to a flow. -/
namespace GuidedTour

/-- Clears the screen and drops all feature data. -/
def Action.closing : List Action :=
  [clear .tutorial, clear .feature, clear .step, clear .detail, handleDismissed]

namespace Registry

/-- Every state takes `DISMISS`. Nothing else leads out of a dismissal, and into it. A pause is
ended first. -/
theorem moves_of_dismissal : (∀ state ∈ builtin.tutorial.states.names,
      (builtin.tutorial.transition state "DISMISS" {}).handled = true ∧
        (builtin.tutorial.transition state "DISMISS" {}).state = "dismissed") ∧
    ∀ move ∈ builtin.tutorial.moves,
      (move.source = "dismissed" → move.event = "DISMISS") ∧
      (move.event = "DISMISS" → move.answer.actions =
        (if move.source = "paused" then [.handleResume] else []) ++ Action.closing) := by
  decide +kernel

end Registry

namespace Tour

variable {t : Tour} {op : Operation} {event : String}

/-- Nothing but what was completed, who sees the tour, and the route. -/
def dismissedSession (s : Session) : Session where
  tutorial := "dismissed"
  completed := s.completed
  shownBeforeLogin := s.shownBeforeLogin
  route := s.resumeRoute.or s.route

theorem session_resume (t : Tour) : (t.perform .handleResume).session =
    { t.session with route := t.session.resumeRoute.or t.session.route, resumeRoute := none } := by
  obtain ⟨registry, session, intents⟩ := t
  obtain ⟨_, _, _, _, _, _, _, _, resumeRoute⟩ := session
  cases resumeRoute <;> rfl

theorem session_closing (t : Tour) : (Action.closing.foldl perform t).session =
    { dismissedSession t.session with
      tutorial := t.session.tutorial
      route := t.session.route
      resumeRoute := t.session.resumeRoute } := rfl

theorem dismiss_answered (registry : t.registry = .builtin)
    (known : Registry.builtin.tutorial.contains t.session.tutorial = true) :
    (t.tutorialOutcome "DISMISS").handled = true ∧
      (t.tutorialOutcome "DISMISS").state = "dismissed" ∧
      (t.tutorialOutcome "DISMISS").actions =
        (if t.session.tutorial = "paused" then [.handleResume] else []) ++ Action.closing := by
  unfold tutorialOutcome
  rw [registry]
  obtain ⟨handled, leads⟩ :=
    Registry.moves_of_dismissal.1 _ (Machine.mem_names_of_contains known)
  exact ⟨handled, leads, (Registry.moves_of_dismissal.2 _ (Machine.mem_moves handled)).2 rfl⟩

theorem dismiss_eq (registry : t.registry = .builtin)
    (known : Registry.builtin.tutorial.contains t.session.tutorial = true) :
    t.dismiss.2 = Action.closing.foldl perform
      ((if t.session.tutorial = "paused" then [Action.handleResume] else []).foldl perform
        { t with session.tutorial := "dismissed" }) := by
  obtain ⟨-, leads, actions⟩ := dismiss_answered registry known
  rw [← List.foldl_append, ← actions, ← leads]
  exact tutorial_snd registry "DISMISS"

/-- A route is remembered only in a pause, and then the tour goes back to it. -/
theorem session_dismiss (registry : t.registry = .builtin)
    (known : Registry.builtin.tutorial.contains t.session.tutorial = true)
    (remembers : t.RemembersInPause) :
    t.dismiss.2.session = dismissedSession t.session := by
  rw [dismiss_eq registry known, session_closing]
  unfold dismissedSession
  by_cases paused : t.session.tutorial = "paused"
  · simp only [if_pos paused, List.foldl_cons, List.foldl_nil, session_resume]
  · simp only [if_neg paused, List.foldl_nil, remembers paused, Option.none_or]

/-- The tour is dismissed, with what was completed by then and whoever sees it. -/
structure Dismissed (completed : FeatureSet) (shown : Bool) (t : Tour) : Prop where
  tutorial : t.session.tutorial = "dismissed"
  completed : t.session.completed = completed
  shown : t.session.shownBeforeLogin = shown

variable {completed : FeatureSet} {shown : Bool}

theorem dismissed_dismiss (registry : t.registry = .builtin)
    (known : Registry.builtin.tutorial.contains t.session.tutorial = true) :
    t.dismiss.2.Dismissed t.session.completed t.session.shownBeforeLogin := by
  rw [dismiss_eq registry known]
  by_cases paused : t.session.tutorial = "paused"
  · rw [if_pos paused]
    constructor <;> simp [session_closing, session_resume, dismissedSession]
  · rw [if_neg paused]
    exact ⟨rfl, rfl, rfl⟩

theorem completed_opened_select (registry : t.registry = .builtin) (features : List Feature) :
    (t.opened (.select features)).session.completed = t.session.completed := by
  unfold opened
  simp only [opening]
  cases Feature.distinct features with
  | nil =>
    simp only [openSelect, performAll_nil]
    rfl
  | cons first rest =>
    simp only [openSelect]
    rw [performAll_begin registry, (shows_begin registry first).completed]
    rfl

namespace Dismissed

theorem tutorial_unhandled (h : t.Dismissed completed shown) (registry : t.registry = .builtin)
    (claim : Option String) (other : event ≠ "DISMISS") :
    ∃ state, t.step (.tutorial claim event) = (some (.unhandled state), t) := by
  have ignored : (t.tutorialOutcome event).handled = false := by
    rw [Bool.eq_false_iff]
    intro handled
    have move := Machine.mem_moves handled
    rw [registry] at move
    exact other ((Registry.moves_of_dismissal.2 _ move).1 h.tutorial)
  cases claim with
  | none => exact ⟨_, congrArg (Prod.map some id) (tutorialFrom_of_unhandled _ ignored)⟩
  | some state => exact ⟨_, congrArg (Prod.map some id) (tutorialFrom_of_unhandled _ ignored)⟩

theorem flow_unhandled (h : t.Dismissed completed shown) (claim : Option String)
    (event : String) (given : Option FlowParams) :
    ∃ state, t.step (.flow claim event given) = (some (.unhandled state), t) := by
  have inactive : t.session.isActive = false := by
    unfold Session.isActive
    rw [h.tutorial]
    decide
  cases claim with
  | none => cases hf : t.session.flow <;> simp [step, Tour.flow, flowFrom, hf, inactive]
  | some state => cases hf : t.session.flow <;> simp [step, flowFrom, hf, inactive]

theorem select (h : t.Dismissed completed shown) (registry : t.registry = .builtin)
    (features : List Feature) : (t.step (.select features)).2.Dismissed completed shown := by
  have aside := aside_opened_select registry features
  have stays : ¬(t.opened (.select features)).Continues (.select features) := by
    rintro ⟨-, selecting⟩
    rw [aside.tutorial, h.tutorial] at selecting
    exact absurd selecting (by decide)
  rw [step_eq, if_neg stays]
  exact ⟨aside.tutorial.trans h.tutorial,
    (completed_opened_select registry features).trans h.completed, aside.shown.trans h.shown⟩

theorem step (h : t.Dismissed completed shown) (registry : t.registry = .builtin)
    (carriesOn : op ≠ .restart ∧ op ≠ .reset) : (t.step op).2.Dismissed completed shown := by
  have again : t.dismiss.2.Dismissed completed shown := by
    have known : Registry.builtin.tutorial.contains t.session.tutorial = true := by
      rw [h.tutorial]
      decide +kernel
    have dismissed := dismissed_dismiss registry known
    rw [h.completed, h.shown] at dismissed
    exact dismissed
  cases op with
  | tutorial claim event =>
    by_cases same : event = "DISMISS"
    · rw [step_tutorial, same]
      split
      · exact again
      · exact h
    · obtain ⟨state, nothing⟩ := h.tutorial_unhandled registry claim same
      rw [nothing]
      exact h
  | flow claim event given =>
    obtain ⟨state, nothing⟩ := h.flow_unhandled claim event given
    rw [nothing]
    exact h
  | select features => exact h.select registry features
  | observe route => exact ⟨h.tutorial, h.completed, h.shown⟩
  | dismiss => exact again
  | restart => exact absurd rfl carriesOn.1
  | reset => exact absurd rfl carriesOn.2

theorem run (h : t.Dismissed completed shown) (sound : Sound .builtin (fun _ flow => flow.Walked) t)
    {later : List Operation} (carriesOn : ∀ op ∈ later, op ≠ .restart ∧ op ≠ .reset) :
    (t.run later).Dismissed completed shown := by
  induction later generalizing t with
  | nil => exact h
  | cons op later ih =>
    exact ih (h.step sound.registry (carriesOn op List.mem_cons_self))
      (sound.step Flow.keeps_walked op) fun op mem => carriesOn op (List.mem_cons_of_mem _ mem)

end Dismissed

/-- Every tour can be dismissed, and nothing is left then but what was completed, who sees the tour,
and the route, which is that of before the pause if there was one. From then on, up to a fresh
start, whatever is asked for changes none of this, no event of a flow does anything, and no event
of the tutorial but another dismissal. -/
theorem dismissal_final (ops : List Operation) :
    let t := (enter .builtin).run ops
    t.dismiss.1.handled = true ∧
    t.dismiss.2.session.record = {
      tutorial := "dismissed"
      machine := none
      state := none
      history := []
      completed := t.session.completed
      plan := []
      params := {}
      screen := .empty
      shownBeforeLogin := t.session.shownBeforeLogin
      route := t.session.resumeRoute.or t.session.route
      resumeRoute := none } ∧
    ∀ later, (∀ op ∈ later, op ≠ .restart ∧ op ≠ .reset) →
      let u := t.dismiss.2.run later
      u.session.tutorial = "dismissed" ∧
      u.session.completed = t.session.completed ∧
      u.session.shownBeforeLogin = t.session.shownBeforeLogin ∧
      (∀ claim event, event ≠ "DISMISS" →
        ∃ state, u.step (.tutorial claim event) = (some (.unhandled state), u)) ∧
      ∀ claim event given,
        ∃ state, u.step (.flow claim event given) = (some (.unhandled state), u) := by
  intro t
  have sound : Sound .builtin (fun _ flow => flow.Walked) t := sound_run_enter ops
  refine ⟨?_, ?_, fun later carriesOn => ?_⟩
  · rw [dismiss, tutorial_fst]
    exact (dismiss_answered sound.registry sound.tutorial).1
  · rw [session_dismiss sound.registry sound.tutorial (remembersInPause_run ops)]
    rfl
  · have soundThen : Sound .builtin (fun _ flow => flow.Walked) t.dismiss.2 :=
      sound.step Flow.keeps_walked .dismiss
    have dismissed := (dismissed_dismiss sound.registry sound.tutorial).run soundThen carriesOn
    have registry := (soundThen.run Flow.keeps_walked later).registry
    exact ⟨dismissed.tutorial, dismissed.completed, dismissed.shown,
      fun claim _ other => dismissed.tutorial_unhandled registry claim other,
      fun claim event given => dismissed.flow_unhandled claim event given⟩

/-- A tour that is paused on a screen of tools, after policies were completed. -/
def interrupted : List Operation :=
  [.restart, .select [.policies, .tools], .flow none "DONE" none, .flow none "CONTINUE" none,
    .tutorial none "PAUSE"]

/-- A new plan, an event for its flow, another dismissal, and an attempt to go on. -/
def insisting : List Operation :=
  [.select [.replication], .flow (some "setup") "CONTINUE" none, .dismiss, .select [.secrets],
    .tutorial none "AUTH", .tutorial (some "paused") "CONTINUE"]

theorem dismissal_final_insisting :
    let u := ((enter .builtin).run interrupted).dismiss.2.run insisting
    u.session.tutorial = "dismissed" ∧ u.session.completed = .ofList [.policies] ∧
      u.session.flow = some (.begun .builtin .secrets) ∧
      ∃ state, u.step (.flow none "CONTINUE" none) = (some (.unhandled state), u) := by
  intro u
  have carriesOn : ∀ op ∈ insisting, op ≠ .restart ∧ op ≠ .reset := by decide
  obtain ⟨tutorial, completed, -, -, flow⟩ := (dismissal_final interrupted).2.2 insisting carriesOn
  have before : ((enter .builtin).run interrupted).session.completed = .ofList [.policies] := by
    decide +kernel
  exact ⟨tutorial, completed.trans before, by decide +kernel, flow none "CONTINUE" none⟩

end Tour

end GuidedTour
