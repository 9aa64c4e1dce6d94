import GuidedTour.Proofs.Tour.Builtin

/-! Who sees the tour. The initialization tour shows itself before login, and `INITDONE`, which
leads out of it, hides it again. The machine-wide events lead out of it as well and hide nothing,
and a pause can be continued among the active states. So an active tour is shown before login
exactly if it strayed there from the initialization, and stays so until a fresh start. -/
namespace GuidedTour

/-- A state of the initialization tour. -/
def Flow.Tutorial.isInitializing (state : String) : Bool :=
  "init.".toList.isPrefixOf state.toList

/-- Whether the tour is shown before login, after an action. -/
def Action.showing (shown : Bool) : Action → Bool
  | showAlways => true
  | showWhenAuthenticated => false
  | _ => shown

open Flow.Tutorial (isInitializing)

/-- A move enters the initialization and shows the tour, ends it and hides the tour, or leaves
it as it is shown; any other move has nothing to do with it. -/
theorem Registry.moves_showing : ∀ move ∈ builtin.tutorial.moves, ∀ shown,
    let source := move.source
    let target := move.answer.state
    let after := move.answer.actions.foldl Action.showing shown
    (source = "idle" ∨ isInitializing source = true) ∧ isInitializing target = true ∧
        after = true ∨
      isInitializing source = true ∧ target = "active.select" ∧ after = false ∨
      isInitializing source = true ∧ target ∈ ["paused", "complete"] ∧ after = shown ∨
      target = "dismissed" ∨
      isInitializing source = false ∧ source ≠ "dismissed" ∧ isInitializing target = false ∧
        target ≠ "idle" ∧ after = shown := by
  decide +kernel

theorem Registry.apart_of_active : ∀ state ∈ builtin.tutorial.states.names,
    "active.".toList.isPrefixOf state.toList = true →
      isInitializing state = false ∧ state ≠ "dismissed" := by
  decide +kernel

namespace Tour

variable {t : Tour} {ops : List Operation} {op : Operation}

theorem shown_foldl (t : Tour) (actions : List Action) :
    (actions.foldl perform t).session.shownBeforeLogin =
      actions.foldl Action.showing t.session.shownBeforeLogin := by
  induction actions generalizing t with
  | nil => rfl
  | cons action rest ih =>
    have first : (t.perform action).session.shownBeforeLogin =
        Action.showing t.session.shownBeforeLogin action := by
      cases action with
      | handleResume => unfold perform; dsimp only; split <;> rfl
      | _ => rfl
    rw [List.foldl_cons, List.foldl_cons, ih, first]

/-- Since the last fresh start, an operation paused or completed the tour out of the
initialization. -/
def Strayed (ops : List Operation) : Prop :=
  ∃ before op after, ops = before ++ op :: after ∧
    isInitializing ((enter .builtin).run before).session.tutorial = true ∧
    ((enter .builtin).run (before ++ [op])).session.tutorial ∈ ["paused", "complete"] ∧
    ∀ later ∈ after, later ≠ .restart ∧ later ≠ .reset

theorem strayed_concat : Strayed (ops ++ [op]) ↔
    (isInitializing ((enter .builtin).run ops).session.tutorial = true ∧
      ((enter .builtin).run (ops ++ [op])).session.tutorial ∈ ["paused", "complete"]) ∨
    Strayed ops ∧ op ≠ .restart ∧ op ≠ .reset := by
  constructor
  · rintro ⟨before, step, after, split, inside, outside, goesOn⟩
    obtain ⟨rfl, rfl, rfl⟩ | ⟨rest, rfl, rfl⟩ := concat_eq_append_cons_iff.1 split
    · exact .inl ⟨inside, outside⟩
    · refine .inr ⟨⟨before, step, rest, rfl, inside, outside, fun later mem => ?_⟩, ?_⟩
      · exact goesOn later (List.mem_append_left _ mem)
      · exact goesOn op (by simp)
  · rintro (⟨inside, outside⟩ | ⟨⟨before, step, after, rfl, inside, outside, goesOn⟩, carriesOn⟩)
    · exact ⟨ops, op, [], rfl, inside, outside, by simp⟩
    · refine ⟨before, step, after ++ [op], by simp, inside, outside, fun later mem => ?_⟩
      obtain mem | mem := List.mem_append.1 mem
      · exact goesOn later mem
      · rw [List.mem_singleton.1 mem]
        exact carriesOn

/-- Up to a dismissal the tour is shown before login while it initializes or if it strayed; and
it has not strayed before the initialization is over. -/
structure Showing (ops : List Operation) (t : Tour) : Prop where
  shown : t.session.tutorial ≠ "dismissed" → (t.session.shownBeforeLogin = true ↔
    isInitializing t.session.tutorial = true ∨ Strayed ops)
  ahead : t.session.tutorial = "idle" ∨ isInitializing t.session.tutorial = true → ¬Strayed ops

theorem outside_of_mem {state : String} (h : state ∈ ["paused", "complete"]) :
    isInitializing state = false ∧ state ≠ "idle" := by
  revert h
  revert state
  decide

/-- A fresh start hides the tour, and nothing has strayed then. -/
theorem Showing.of_anew (anew : op = .restart ∨ op = .reset)
    (apart : isInitializing ((enter .builtin).run (ops ++ [op])).session.tutorial = false)
    (outside : ((enter .builtin).run (ops ++ [op])).session.tutorial ∉ ["paused", "complete"])
    (hidden : ((enter .builtin).run (ops ++ [op])).session.shownBeforeLogin = false) :
    Showing (ops ++ [op]) ((enter .builtin).run (ops ++ [op])) := by
  have straight : ¬Strayed (ops ++ [op]) := by
    rw [strayed_concat]
    rintro (⟨-, left⟩ | ⟨-, restart, reset⟩)
    · exact outside left
    · exact anew.elim restart reset
  refine ⟨fun _ => ?_, fun _ => straight⟩
  rw [hidden, apart]
  simp [straight]

theorem Showing.of_same (h : Showing ops ((enter .builtin).run ops))
    (carriesOn : op ≠ .restart ∧ op ≠ .reset)
    (aside : ((enter .builtin).run ops).Aside ((enter .builtin).run (ops ++ [op]))) :
    Showing (ops ++ [op]) ((enter .builtin).run (ops ++ [op])) := by
  have strays : Strayed (ops ++ [op]) ↔ Strayed ops := by
    rw [strayed_concat, aside.tutorial]
    refine ⟨?_, fun strayed => .inr ⟨strayed, carriesOn⟩⟩
    rintro (⟨inside, outside⟩ | ⟨strayed, -⟩)
    · rw [(outside_of_mem outside).1] at inside
      cases inside
    · exact strayed
  refine ⟨?_, ?_⟩
  · rw [aside.tutorial, aside.shown, strays]
    exact h.shown
  · rw [aside.tutorial, strays]
    exact h.ahead

theorem Showing.of_move (h : Showing ops ((enter .builtin).run ops))
    (carriesOn : op ≠ .restart ∧ op ≠ .reset) {move : Machine.Move}
    (mem : move ∈ Registry.builtin.tutorial.moves)
    (source : ((enter .builtin).run ops).session.tutorial = move.source)
    (target : ((enter .builtin).run (ops ++ [op])).session.tutorial = move.answer.state)
    (shows : ((enter .builtin).run (ops ++ [op])).session.shownBeforeLogin =
      move.answer.actions.foldl Action.showing
        ((enter .builtin).run ops).session.shownBeforeLogin) :
    Showing (ops ++ [op]) ((enter .builtin).run (ops ++ [op])) := by
  have strays : Strayed (ops ++ [op]) ↔
      isInitializing move.source = true ∧ move.answer.state ∈ ["paused", "complete"] ∨
        Strayed ops := by
    rw [strayed_concat, source, target]
    simp only [carriesOn, ne_eq, not_false_eq_true, and_self, and_true]
  obtain ⟨shown, ahead⟩ := h
  rw [source] at shown ahead
  obtain ⟨early, inside, after⟩ | ⟨inside, select, after⟩ | ⟨inside, outside, after⟩ |
      dismissed | ⟨apart, lasting, apart', later, after⟩ :=
    Registry.moves_showing move mem ((enter .builtin).run ops).session.shownBeforeLogin
  · -- Into the initialization, or further in it.
    have straight : ¬Strayed (ops ++ [op]) := by
      rw [strays]
      rintro (⟨-, outside⟩ | strayed)
      · exact absurd inside (by simp [(outside_of_mem outside).1])
      · exact ahead early strayed
    refine ⟨fun _ => ?_, fun _ => straight⟩
    rw [shows, after, target]
    simp [inside]
  · -- Through its end.
    have straight : ¬Strayed (ops ++ [op]) := by
      rw [strays, select]
      rintro (⟨-, outside⟩ | strayed)
      · exact absurd outside (by decide)
      · exact ahead (.inr inside) strayed
    have inactive : isInitializing "active.select" = false := by decide
    refine ⟨fun _ => ?_, fun _ => straight⟩
    rw [shows, after, target, select]
    simp [inactive, straight]
  · -- Past its end.
    have strayed : Strayed (ops ++ [op]) := strays.2 (.inl ⟨inside, outside⟩)
    have lasting : move.source ≠ "dismissed" := by
      intro dismissed
      rw [dismissed] at inside
      exact absurd inside (by decide)
    obtain ⟨apart, later⟩ := outside_of_mem outside
    refine ⟨fun _ => ?_, fun early => ?_⟩
    · rw [shows, after, shown lasting]
      simp [inside, strayed]
    · rw [target, apart] at early
      simp [later] at early
  · refine ⟨fun lasting => absurd (target.trans dismissed) lasting, fun early => ?_⟩
    rw [target, dismissed] at early
    exact absurd early (by decide)
  · -- Elsewhere.
    refine ⟨fun _ => ?_, fun early => ?_⟩
    · rw [shows, after, shown lasting, strays, target]
      simp [apart, apart']
    · rw [target, apart'] at early
      simp [later] at early

theorem showing_run_enter (ops : List Operation) : Showing ops ((enter .builtin).run ops) := by
  induction ops using List.reverseRecOn with
  | nil =>
    have straight : ¬Strayed [] := by
      rintro ⟨before, op, after, split, -⟩
      simp at split
    refine ⟨fun _ => ?_, fun _ => straight⟩
    rw [run_nil, session_enter]
    simp only [straight, or_false]
    decide
  | append_singleton ops op ih =>
    have sound := sound_run_enter ops
    have step : (enter .builtin).run (ops ++ [op]) = (((enter .builtin).run ops).step op).2 :=
      run_concat _ _ _
    -- The last operation starts anew, leaves the tutorial where it is, or moves it.
    by_cases restart : op = .restart
    · have anew := session_of_restart sound.registry
      rw [← restart, ← step] at anew
      refine .of_anew (.inl restart) ?_ ?_ ?_ <;> rw [anew] <;> decide
    by_cases reset : op = .reset
    · have anew := session_of_reset sound.registry
      rw [← reset, ← step] at anew
      refine .of_anew (.inr reset) ?_ ?_ ?_ <;> rw [anew] <;> decide
    obtain ⟨next, aside, same | ⟨event, -, sent⟩⟩ :=
      step_aside sound.registry sound.plan ⟨restart, reset⟩
    · rw [← step] at same
      rw [← same] at aside
      exact ih.of_same ⟨restart, reset⟩ aside
    rw [← step] at sent
    obtain ⟨-, stays⟩ | ⟨-, answer, move, moved⟩ :=
      tutorial_cases (aside.registry.trans sound.registry) event
    · rw [stays] at sent
      rw [← sent] at aside
      exact ih.of_same ⟨restart, reset⟩ aside
    · rw [moved] at sent
      refine ih.of_move ⟨restart, reset⟩ move aside.tutorial.symm ?_ ?_
      · rw [sent, foldl_perform_tutorial]
      · rw [sent, shown_foldl, ← aside.shown]

/-- An active tour is shown before login exactly if a pause or a completion once led out of
the initialization, and no fresh start came since. -/
theorem shown_active_iff (ops : List Operation)
    (active : ((enter .builtin).run ops).session.isActive = true) :
    ((enter .builtin).run ops).session.shownBeforeLogin = true ↔ Strayed ops := by
  have sound := sound_run_enter ops
  have place := Machine.mem_names_of_contains sound.tutorial
  obtain ⟨apart, lasting⟩ := Registry.apart_of_active _ place active
  rw [(showing_run_enter ops).shown lasting, apart]
  simp

/-- An operator who completes the tour from within the initialization, then pauses and
continues. -/
def revived : List Operation :=
  [.tutorial none "INIT", .tutorial none "DONE", .tutorial none "PAUSE",
    .tutorial none "CONTINUE"]

theorem shown_active_iff_revived :
    ((enter .builtin).run revived).session.isActive = true ∧ Strayed revived := by
  have active : ((enter .builtin).run revived).session.isActive = true := by decide +kernel
  have shown : ((enter .builtin).run revived).session.shownBeforeLogin = true := by
    decide +kernel
  exact ⟨active, (shown_active_iff revived active).1 shown⟩

/-- A pause is enough: the initialization is left behind, and the tour still shows before
login. -/
theorem shown_interrupted :
    let t := (enter .builtin).run
      [.tutorial none "INIT", .tutorial none "PAUSE", .tutorial none "CONTINUE"]
    t.session.isActive = true ∧ t.session.shownBeforeLogin = true := by
  decide +kernel

end Tour

end GuidedTour
