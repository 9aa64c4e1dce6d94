import GuidedTour.Proofs.Flow.Figures

/-! The forks of the secrets flow. The mounts part the engines that are walked for from all others,
and the details part their branches. What a history shows beyond a fork was recorded when
`CONTINUE` took that way. -/
namespace GuidedTour

open Flow.Secrets (roleEngines secretEngines encryptionEngines supportedEngines)

/-- The engines that a branch is walked for. Every other one ends at the list. -/
def Branch.engines : Branch → List String
  | role => roleEngines
  | secret => secretEngines
  | encryption => encryptionEngines
  | list => []

namespace Flow

namespace Secrets

/-- A screen with several ways on, where one of them leads, and its guard. -/
structure Fork where
  screen : String
  way : String
  guard : Guard
  deriving DecidableEq, Repr

def forks : List Fork := [
  ⟨"enable", "details", .mountIn supportedEngines⟩,
  ⟨"enable", "list", .mountNotIn supportedEngines⟩,
  ⟨"details", "role", .mountIn roleEngines⟩,
  ⟨"details", "secret", .mountIn secretEngines⟩,
  ⟨"details", "encryption", .mountIn encryptionEngines⟩]

/-- A way is recorded when `CONTINUE` takes it, and is no longer open then; nothing else adds it
to a history. -/
theorem forks_of_mem_histories : ∀ fork ∈ forks, ∀ h ∈ histories .secrets, ∀ last ∈ h.getLast?,
    ∀ exit ∈ (Registry.builtin.flow .secrets).exits last, exit.2.guard.admits h = true →
      fork.way ∈ Tour.recordVisit exit.1 exit.2.target
        ((Registry.builtin.flow .secrets).isTerminal exit.2.target) h →
      if last = fork.screen ∧ exit.1 = "CONTINUE" then exit.2.guard = fork.guard
      else fork.way ∈ h := by
  decide +kernel

theorem ways_not_initial : ∀ fork ∈ forks, fork.way ∉ (begun .builtin .secrets).history := by
  decide

/-- The list is one way on from the mounts, and all other branches lie on the other. -/
theorem forks_of_marker : ∀ branch : Branch, ∀ h ∈ histories .secrets, branch.marker ∈ h →
    if branch = .list then "list" ∈ h
    else "details" ∈ h ∧ ⟨"details", branch.marker, .mountIn branch.engines⟩ ∈ forks := by
  rintro (_ | _ | _ | _) <;> decide +kernel

/-- No engine is walked for on two branches. -/
theorem engines_apart (left right : Branch) :
    ∀ engine ∈ left.engines, engine ∈ right.engines → left = right := by
  cases left <;> cases right <;> decide

end Secrets

/-- A way that a move leaves in the history was open to the move, or has been there before. -/
theorem Walked.way_of_moved {flow : Flow} (h : flow.Walked) (secrets : flow.feature = .secrets)
    {event : String} {params : FlowParams}
    (handled : (flow.answer .builtin event params).handled = true) {fork : Secrets.Fork}
    (mem : fork ∈ Secrets.forks)
    (shown : fork.way ∈ (flow.moved .builtin event (flow.answer .builtin event params)).history) :
    if flow.state = fork.screen ∧ event = "CONTINUE" then
      fork.guard.holds ⟨some params, flow.history⟩ = true
    else fork.way ∈ flow.history := by
  obtain ⟨edge, exit, holds, target⟩ := Machine.transition_open handled
  have history := h.history
  have state : (flow.answer .builtin event params).state = edge.target := target
  unfold Flow.moved at shown
  rw [secrets] at exit history
  rw [state, secrets] at shown
  have forked := Secrets.forks_of_mem_histories fork mem _ history _ h.ends _ exit
    (Guard.admits_of_holds holds) shown
  dsimp only at forked
  by_cases leaves : flow.state = fork.screen ∧ event = "CONTINUE"
  · rw [if_pos leaves] at forked ⊢
    exact forked ▸ holds
  · rw [if_neg leaves] at forked ⊢
    exact forked

end Flow

end GuidedTour
