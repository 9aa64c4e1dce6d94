import GuidedTour.Script.Basic
import GuidedTour.Proofs.Tour.Queueing
import GuidedTour.Proofs.Tour.Soundness

/-! Replays of scripts. The log of two scripts one after the other is the log of the first
and the log of the second, replayed from where the first one ended. Each step hands its
intents over, so after a step nothing is left in the queue. -/
namespace GuidedTour.Script

variable {t : Tour} {step : Step} {steps more : List Step}

theorem replayFrom_eq (log : List Entry) (t : Tour) (steps : List Step) :
    replayFrom log t steps = (log.reverse ++ (replay t steps).1, (replay t steps).2) := by
  induction steps generalizing log t with
  | nil =>
    unfold replay replayFrom
    rw [List.reverse_nil, List.append_nil]
  | cons step steps ih =>
    unfold replay
    rw [replayFrom, replayFrom, ih, ih [perform t step]]
    simp

@[simp] theorem replay_nil (t : Tour) : replay t [] = ([], t) := rfl

@[simp] theorem replay_cons (t : Tour) (step : Step) (steps : List Step) :
    replay t (step :: steps) = (perform t step :: (replay (perform t step).after steps).1,
      (replay (perform t step).after steps).2) := by
  unfold replay
  rw [replayFrom, replayFrom_eq]
  rfl

/-- Two scripts one after the other. -/
theorem replay_append (t : Tour) (steps more : List Step) : replay t (steps ++ more) =
    ((replay t steps).1 ++ (replay (replay t steps).2 more).1,
      (replay (replay t steps).2 more).2) := by
  induction steps generalizing t with
  | nil => rfl
  | cons step steps ih => rw [List.cons_append, replay_cons, replay_cons, ih, List.cons_append]

/-- The log has an entry for each step, in order. -/
theorem map_step_replay (t : Tour) (steps : List Step) :
    (replay t steps).1.map (·.step) = steps := by
  induction steps generalizing t with
  | nil => rfl
  | cons step steps ih =>
    rw [replay_cons, List.map_cons, ih]
    rfl

theorem intents_after_perform (t : Tour) (step : Step) : (perform t step).after.intents = [] := rfl

theorem intents_after_replay (h : t.intents = []) : (replay t steps).2.intents = [] := by
  induction steps generalizing t with
  | nil => exact h
  | cons step steps ih =>
    rw [replay_cons]
    exact ih (intents_after_perform t step)

/-- A script with a step in it leaves nothing to be handed over. -/
theorem intents_after_replay_of_ne_nil (h : steps ≠ []) : (replay t steps).2.intents = [] := by
  cases steps with
  | nil => exact absurd rfl h
  | cons step steps =>
    rw [replay_cons]
    exact intents_after_replay (intents_after_perform t step)

/-- Apart from the intents, a replay leads where the operations of its steps lead. -/
theorem takeIntents_after_replay (t : Tour) (steps : List Step) :
    (replay t steps).2.takeIntents.2 = (t.run (steps.map Step.operation)).takeIntents.2 := by
  induction steps generalizing t with
  | nil => rfl
  | cons step steps ih =>
    rw [replay_cons, ih, List.map_cons, Tour.run_cons]
    exact Tour.run_takeIntents _ _

theorem session_after_replay (t : Tour) (steps : List Step) :
    (replay t steps).2.session = (t.run (steps.map Step.operation)).session := by
  have same := congrArg Tour.session (takeIntents_after_replay t steps)
  exact same

section Sound

variable {r : Registry} {Q : String → Flow → Prop}

theorem sound_after_perform (keeps : r.Keeps Q) (h : Tour.Sound r Q t) (step : Step) :
    Tour.Sound r Q (perform t step).after := by
  have after := h.step keeps step.operation
  exact ⟨after.registry, after.tutorial, after.plan, after.flow⟩

theorem sound_after_replay (keeps : r.Keeps Q) (h : Tour.Sound r Q t) (steps : List Step) :
    Tour.Sound r Q (replay t steps).2 := by
  induction steps generalizing t with
  | nil => exact h
  | cons step steps ih =>
    rw [replay_cons]
    exact ih (sound_after_perform keeps h step)

end Sound

end GuidedTour.Script
