import GuidedTour.Progress
import GuidedTour.Proofs.Tour.Announcing
import GuidedTour.Proofs.Tour.Visibility

/-! The way through the initialization. It has an order: idle, asked for, and its steps up to the
login. Every move of the tutorial out of one of these states leads to a later one or leaves them
all, and nothing leads back. So the progress of the initialization only rises, and once the tour has
left these states only a fresh start can open them again. -/
namespace GuidedTour

namespace Flow.Tutorial

/-- The states from idle to the end of the initialization, in order. -/
def firstStates : List String := ["idle", "init.idle"] ++ initSteps.map ("init.active." ++ ·)

/-- How many of these states lie behind. -/
def stage (state : String) : ℕ := firstStates.idxOf state

theorem mem_firstStates_of_stage_le {source target : String} (le : stage source ≤ stage target)
    (h : target ∈ firstStates) : source ∈ firstStates :=
  List.idxOf_lt_length_iff.1 (le.trans_lt (List.idxOf_lt_length_iff.2 h))

end Flow.Tutorial

open Flow.Tutorial (firstStates stage isInitializing mem_firstStates_of_stage_le)

namespace Registry

/-- No move goes back, and among the first states none stays. -/
theorem moves_forward : ∀ move ∈ builtin.tutorial.moves,
    stage move.source ≤ stage move.answer.state ∧
      (move.source ∈ firstStates → stage move.source < stage move.answer.state) := by
  decide +kernel

/-- The progress that is told in a state of the tutorial, and the place of the state. -/
theorem stages : ∀ state ∈ builtin.tutorial.states.names,
    (state ∈ firstStates ↔ state = "idle" ∨ isInitializing state = true) ∧
    ((Progress.initialization { tutorial := state }).isSome = true ↔
      "init.active.".toList.isPrefixOf state.toList = true) ∧
    ∀ position ∈ Progress.initialization { tutorial := state },
      state ∈ firstStates ∧ stage state = position.step + 1 ∧
        position.percentage = 25 * position.step := by
  decide +kernel

end Registry

namespace Tour

variable {t : Tour} {op : Operation} {event : String}

theorem stage_tutorial (registry : t.registry = .builtin) (event : String) :
    stage t.session.tutorial ≤ stage (t.tutorial event).2.session.tutorial := by
  obtain ⟨-, same⟩ | ⟨-, answer, move, moved⟩ := tutorial_cases registry event
  · rw [same]
  · rw [moved, foldl_perform_tutorial]
    exact (Registry.moves_forward _ move).1

theorem stage_step (sound : Sound .builtin (fun _ _ => True) t)
    (carriesOn : op ≠ .restart ∧ op ≠ .reset) :
    stage t.session.tutorial ≤ stage (t.step op).2.session.tutorial := by
  obtain ⟨next, aside, same | ⟨event, -, sent⟩⟩ := step_aside sound.registry sound.plan carriesOn
  · rw [same, aside.tutorial]
  · rw [sent, ← aside.tutorial]
    exact stage_tutorial (aside.registry.trans sound.registry) event

theorem stage_run (reached : t.Reachable) {ops : List Operation}
    (carriesOn : ∀ op ∈ ops, op ≠ .restart ∧ op ≠ .reset) :
    stage t.session.tutorial ≤ stage (t.run ops).session.tutorial := by
  induction ops generalizing t with
  | nil => exact le_rfl
  | cons op ops ih =>
    obtain ⟨first, rest⟩ := List.forall_mem_cons.1 carriesOn
    exact (stage_step reached.sound first).trans (ih (reached.step op) rest)

/-- An event that the tutorial handles leads out of a first state to a later one. -/
theorem stage_step_tutorial (registry : t.registry = .builtin)
    (first : t.session.tutorial ∈ firstStates) {claim : Option String} {outcome : Outcome}
    (answered : outcome ∈ (t.step (.tutorial claim event)).1) (handled : outcome.handled = true) :
    stage t.session.tutorial < stage (t.step (.tutorial claim event)).2.session.tutorial := by
  obtain ⟨state, stays⟩ | ⟨taken, moved⟩ := step_tutorial_cases registry claim event
  · rw [stays] at answered
    obtain rfl := Option.some.inj answered
    cases handled
  · have move := Machine.mem_moves taken
    rw [registry] at move
    have forward := (Registry.moves_forward _ move).2 first
    rw [← registry] at forward
    rw [moved, foldl_perform_tutorial]
    exact forward

/-- Progress, as far as it is told, follows the stage. -/
theorem Reachable.position (reached : t.Reachable) {position : Progress.Position}
    (h : position ∈ Progress.initialization t.session.record) :
    t.session.tutorial ∈ firstStates ∧ stage t.session.tutorial = position.step + 1 ∧
      position.percentage = 25 * position.step :=
  (Registry.stages _ (Machine.mem_names_of_contains reached.sound.tutorial)).2.2 position h

theorem Reachable.mem_firstStates_iff (reached : t.Reachable) :
    t.session.tutorial ∈ firstStates ↔
      t.session.tutorial = "idle" ∨ isInitializing t.session.tutorial = true :=
  (Registry.stages _ (Machine.mem_names_of_contains reached.sound.tutorial)).1

/-- The progress of the initialization is told exactly in its active states. An event that the
tutorial handles raises it or ends it, and up to the next fresh start it never falls. Once the tour
is neither idle nor initializes, nothing but a fresh start brings that back. -/
theorem initialization_goes_forward (reached : t.Reachable) :
    let before := Progress.initialization t.session.record
    (before.isSome = true ↔
      "init.active.".toList.isPrefixOf t.session.tutorial.toList = true) ∧
    (∀ claim event, ∀ outcome ∈ (t.step (.tutorial claim event)).1, outcome.handled = true →
      let after := Progress.initialization (t.step (.tutorial claim event)).2.session.record
      ∀ p ∈ before, ∀ q ∈ after, p.step < q.step ∧ p.percentage < q.percentage) ∧
    ∀ ops : List Operation, (∀ op ∈ ops, op ≠ .restart ∧ op ≠ .reset) →
      let next := (t.run ops).session
      (∀ p ∈ before, ∀ q ∈ Progress.initialization next.record,
        p.step ≤ q.step ∧ p.percentage ≤ q.percentage) ∧
      (¬(t.session.tutorial = "idle" ∨ isInitializing t.session.tutorial = true) →
        ¬(next.tutorial = "idle" ∨ isInitializing next.tutorial = true)) := by
  intro before
  have sound := reached.sound
  refine ⟨(Registry.stages _ (Machine.mem_names_of_contains sound.tutorial)).2.1,
    fun claim event outcome answered handled => ?_, fun ops carriesOn => ?_⟩
  · intro after p hp q hq
    obtain ⟨first, here, percentage⟩ := reached.position hp
    obtain ⟨-, there, percentage'⟩ := (reached.step _).position hq
    have rises := stage_step_tutorial sound.registry first answered handled
    omega
  · have rises := stage_run reached carriesOn
    intro next
    refine ⟨fun p hp q hq => ?_, ?_⟩
    · obtain ⟨-, here, percentage⟩ := reached.position hp
      obtain ⟨-, there, percentage'⟩ := (reached.run ops).position hq
      omega
    · rw [← reached.mem_firstStates_iff, ← (reached.run ops).mem_firstStates_iff]
      exact mt (mem_firstStates_of_stage_le rises)

/-- A server on the way to its login, whose keys are to be saved. -/
def saving : List Operation :=
  [.tutorial none "INIT", .tutorial none "START", .tutorial none "TOSAVE"]

/-- From half of the way to three quarters. And after the end, whatever follows, not to idle. -/
theorem initialization_goes_forward_saving :
    let t := (enter .builtin).run saving
    let onward := (t.step (.tutorial none "TOUNSEAL")).2
    let ended := (t.step (.tutorial none "INITDONE")).2
    Progress.initialization t.session.record = some ⟨2, 4, 50⟩ ∧
      Progress.initialization onward.session.record = some ⟨3, 4, 75⟩ ∧
      (∀ p ∈ Progress.initialization t.session.record,
        ∀ q ∈ Progress.initialization onward.session.record,
          p.step < q.step ∧ p.percentage < q.percentage) ∧
      ∀ ops : List Operation, (∀ op ∈ ops, op ≠ .restart ∧ op ≠ .reset) →
        (ended.run ops).session.tutorial ≠ "idle" := by
  intro t onward ended
  have facts : Progress.initialization t.session.record = some ⟨2, 4, 50⟩ ∧
      Progress.initialization onward.session.record = some ⟨3, 4, 75⟩ ∧
      (t.step (.tutorial none "TOUNSEAL")).1.map (·.handled) = some true ∧
      ended.session.tutorial = "active.select" := by
    decide +kernel
  obtain ⟨half, later, answered, select⟩ := facts
  have reached : t.Reachable := ⟨_, saving, .inl rfl, rfl⟩
  obtain ⟨outcome, mem, handled⟩ := Option.map_eq_some_iff.1 answered
  obtain ⟨-, rises, -⟩ := initialization_goes_forward reached
  refine ⟨half, later, rises none "TOUNSEAL" outcome mem handled, fun ops carriesOn => ?_⟩
  have reachedEnd : ended.Reachable := reached.step _
  obtain ⟨-, -, onwards⟩ := initialization_goes_forward reachedEnd
  have outside : ¬(ended.session.tutorial = "idle" ∨
      isInitializing ended.session.tutorial = true) := by
    rw [select]
    decide
  exact (not_or.1 ((onwards ops carriesOn).2 outside)).1

end Tour

end GuidedTour
