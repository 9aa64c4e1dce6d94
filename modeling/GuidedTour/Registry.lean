import GuidedTour.Feature
import GuidedTour.Flow.Tutorial
import GuidedTour.Flow.Secrets
import GuidedTour.Flow.Authentication
import GuidedTour.Flow.Policies
import GuidedTour.Flow.Replication
import GuidedTour.Flow.Tools

/-! The machines that all sessions share: the tutorial and one flow for every
feature. -/
namespace GuidedTour

structure Registry where
  tutorial : Machine
  flow : Feature → Machine

namespace Registry

/-- A feature for which no flow was given. -/
structure MissingFlow where
  feature : Feature
  deriving DecidableEq, Repr

def MissingFlow.message (e : MissingFlow) : String :=
  "No machine definition for feature '" ++ e.feature.name ++ "'"

/-- Needs a flow for every feature; names the first feature that lacks one. -/
def ofFlows (tutorial : Machine) (flows : Feature → Option Machine) :
    Except MissingFlow Registry := do
  let take (f : Feature) : Except MissingFlow Machine :=
    match flows f with
    | some m => .ok m
    | none => .error ⟨f⟩
  let secrets ← take .secrets
  let authentication ← take .authentication
  let policies ← take .policies
  let replication ← take .replication
  let tools ← take .tools
  return {
    tutorial
    flow := fun
      | .secrets => secrets
      | .authentication => authentication
      | .policies => policies
      | .replication => replication
      | .tools => tools }

def builtin : Registry where
  tutorial := Flow.Tutorial.machine
  flow
    | .secrets => Flow.Secrets.machine
    | .authentication => Flow.Authentication.machine
    | .policies => Flow.Policies.machine
    | .replication => Flow.Replication.machine
    | .tools => Flow.Tools.machine

/-- Flows in the order of the features. -/
def flows (r : Registry) : List Machine := Feature.all.map r.flow

/-- The tutorial, then the flows. -/
def machines (r : Registry) : List Machine := r.tutorial :: r.flows

/-- First invalid machine: flows come before the tutorial. -/
def invalid? (r : Registry) : Option Machine.Invalid :=
  (r.flows ++ [r.tutorial]).findSome? Machine.invalid?

def stateCount (r : Registry) : Nat :=
  r.machines.foldl (fun count m => count + m.states.entries.length) 0

end Registry

end GuidedTour
