import GuidedTour.Proofs.Tour.Restarting

/-! The phases of the tour and its region on the screen. Every way into a state of the tutorial ends
with the component of its phase in the region of the tutorial, be it an event, the end of the last
flow, a selection or a fresh start. Flows render elsewhere. So the region always shows the phase. -/
namespace GuidedTour

namespace Flow.Tutorial

inductive Phase where
  | idle | active | paused | complete | dismissed
  deriving DecidableEq, Repr

namespace Phase

/-- The phase that a state of the tutorial belongs to. -/
def of? (state : String) : Option Phase :=
  if state = "idle" ∨ state = "init.idle" then some idle
  else if "init.active.".toList.isPrefixOf state.toList ∨
    "active.".toList.isPrefixOf state.toList then some active
  else if state = "paused" then some paused
  else if state = "complete" then some complete
  else if state = "dismissed" then some dismissed
  else none

/-- What is mounted in the region of the tutorial. -/
def component : Phase → Option String
  | idle => some "tutorial-idle"
  | active => some "tutorial-active"
  | paused => some "tutorial-paused"
  | complete => some "tutorial-complete"
  | dismissed => none

end Phase

end Flow.Tutorial

open Flow.Tutorial (Phase)

/-- Every move renders the phase that it leads to, after whatever else it renders there. -/
theorem Registry.moves_phase : ∀ move ∈ builtin.tutorial.moves,
    (Phase.of? move.answer.state).isSome = true ∧
      (move.answer.actions.filterMap (Action.placed? .tutorial)).getLast? =
        (Phase.of? move.answer.state).map Phase.component := by
  decide +kernel

namespace Tour

variable {t next : Tour} {event : String}

theorem screen_foldl (t : Tour) (actions : List Action) :
    (actions.foldl perform t).session.screen = actions.foldl Screen.draw t.session.screen := by
  induction actions generalizing t with
  | nil => rfl
  | cons action rest ih =>
    have first : (t.perform action).session.screen = t.session.screen.draw action := by
      cases action with
      | handleResume => unfold perform; dsimp only; split <;> rfl
      | _ => rfl
    rw [List.foldl_cons, List.foldl_cons, ih, first]

/-- The tutorial is in a phase, and its region shows it. -/
def ShowsPhase (t : Tour) : Prop :=
  (Phase.of? t.session.tutorial).map Phase.component = some (t.session.screen.get .tutorial)

theorem Aside.showsPhase (aside : t.Aside next) (h : t.ShowsPhase) : next.ShowsPhase := by
  have region : next.session.screen.get .tutorial = t.session.screen.get .tutorial := aside.region
  unfold ShowsPhase
  rw [aside.tutorial, region]
  exact h

theorem showsPhase_tutorial (registry : t.registry = .builtin) (h : t.ShowsPhase) :
    (t.tutorial event).2.ShowsPhase := by
  obtain ⟨-, same⟩ | ⟨-, answer, move, moved⟩ := tutorial_cases registry event
  · rw [same]
    exact h
  obtain ⟨known, rendered⟩ := Registry.moves_phase _ move
  obtain ⟨phase, leads⟩ := Option.isSome_iff_exists.1 known
  unfold ShowsPhase
  rw [moved, foldl_perform_tutorial, screen_foldl, Screen.get_foldl_draw, rendered, leads]
  rfl

/-- After every run the tutorial is in one of the phases, and its region shows the component of this
phase, or nothing once the tour is dismissed. -/
theorem region_shows_phase (ops : List Operation) :
    let session := ((enter .builtin).run ops).session
    ∃ phase, Phase.of? session.tutorial = some phase ∧
      session.screen.get .tutorial = phase.component := by
  have entered : (enter .builtin).ShowsPhase := by
    unfold ShowsPhase
    rw [session_enter]
    decide
  have restarted : (Tour.tutorial ⟨.builtin, .fresh .builtin, []⟩ "AUTH").2.ShowsPhase := by
    unfold ShowsPhase
    rw [fresh_starts.1.1]
    decide
  have shows : ((enter .builtin).run ops).ShowsPhase :=
    run_enter_induction entered restarted Aside.showsPhase showsPhase_tutorial ops
  obtain ⟨phase, here, shown⟩ := Option.map_eq_some_iff.1 shows
  exact ⟨phase, here, shown.symm⟩

end Tour

end GuidedTour
