import GuidedTour.Feature

/-! How many screens a flow has. The secrets flow forks, and its count follows
the branch that the history shows. -/
namespace GuidedTour

/-- Branch of the secrets flow. -/
inductive Branch where
  | role | secret | list | encryption
  deriving DecidableEq, Repr

namespace Branch

/-- State whose presence in the history marks the branch. -/
def marker : Branch → String
  | role => "role"
  | secret => "secret"
  | list => "list"
  | encryption => "encryption"

/-- Screens from the first to the last of the branch. -/
def steps : Branch → Nat
  | role => 7
  | secret => 5
  | list => 4
  | encryption => 5

/-- Branch recorded in a history; before the fork, the longest one. -/
def detect (history : List String) : Branch :=
  ([list, secret, encryption, role].find? fun b => history.contains b.marker).getD role

end Branch

/-- Screens of a flow, given the history walked so far. -/
def totalSteps (feature : Feature) (history : List String) : Nat :=
  match feature with
  | .secrets => (Branch.detect history).steps
  | .authentication => 4
  | .policies => 5
  | .replication => 2
  | .tools => 8

/-- Steps of the initialization tour, in order. -/
def initSteps : List String := ["setup", "save", "unseal", "login"]

end GuidedTour
