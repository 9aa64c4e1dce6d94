import GuidedTour.Tour.Operation
import GuidedTour.Wire.Action

/-! Scripts: what an operator did, as a list of steps that can be sent and replayed. -/
namespace GuidedTour

namespace Script

inductive Step where
  | tutorial (event : String)
  /-- An event for the active flow, with the mount type that was chosen, if any. -/
  | feature (event : String) (mountType : Option String)
  | select (features : List Feature)
  | route (route : Route)
  | restart
  | reset
  deriving DecidableEq, Repr

namespace Step

def operation : Step → Operation
  | tutorial event => .tutorial none event
  | feature event mountType => .flow none event (mountType.map fun m => ⟨some m⟩)
  | select features => .select features
  | route r => .observe r
  | restart => .restart
  | reset => .reset

/-- Word that names the kind of step. -/
def tag : Step → String
  | tutorial _ => "tutorial"
  | feature .. => "feature"
  | select _ => "select"
  | route _ => "route"
  | restart => "restart"
  | reset => "reset"

def toJson (step : Step) : Json :=
  .object <| ("op", .text step.tag) :: match step with
    | tutorial event => [("event", .text event)]
    | feature event mountType =>
      [("event", .text event), ("mount_type", .optional .text mountType)]
    | select features => [("features", .list (features.map Feature.toJson))]
    | route r => [("route", .text r.name), ("params", .texts r.params)]
    | restart | reset => []

def featureSlots : List Wire.Slot := [⟨"event", false⟩, ⟨"mount_type", true⟩]

def routeSlots : List Wire.Slot := [⟨"route", false⟩, ⟨"params", true⟩]

/-- The mount type and the parameters of a route may be left out. -/
def ofJson? (j : Json) : Option Step := do
  let (tag, payload) ← Wire.Payload.tagged? "op" j
  if tag = "tutorial" then
    let fields ← payload.read? (Wire.slots ["event"])
    let event ← Wire.required? fields "event" Json.text?
    return tutorial event
  else if tag = "feature" then
    let fields ← payload.read? featureSlots
    let event ← Wire.required? fields "event" Json.text?
    let mountType ← Wire.optional? fields "mount_type" Json.text?
    return feature event mountType
  else if tag = "select" then
    let fields ← payload.read? (Wire.slots ["features"])
    let features ← Wire.required? fields "features" fun j =>
      j.list?.bind (·.mapM Feature.ofTagged?)
    return select features
  else if tag = "route" then
    let fields ← payload.read? routeSlots
    let name ← Wire.required? fields "route" Json.text?
    let params ← Wire.default? fields "params" [] Json.texts?
    return route ⟨name, params⟩
  else if tag = "restart" then
    if payload.isBare then return restart else none
  else if tag = "reset" then
    if payload.isBare then return reset else none
  else none

end Step

/-- Steps that one script may have. -/
def maxSteps : Nat := 10000

inductive Fault where
  /-- The text is no list of steps. -/
  | invalid
  | tooLong (steps : Nat)
  deriving DecidableEq, Repr

def Fault.reason : Fault → String
  | invalid => "Invalid script"
  | tooLong steps =>
    "Script has " ++ toString steps ++ " steps, maximum is " ++ toString maxSteps

def Fault.message (f : Fault) : String := "Deserialization error: " ++ f.reason

def toJson (steps : List Step) : Json := .list (steps.map Step.toJson)

/-- The text in which a script is sent. -/
def write (steps : List Step) : String := (toJson steps).compact

/-- The length is checked after all steps were read. -/
def parse (text : String) : Except Fault (List Step) :=
  match (Json.parse? text).bind fun j => j.list?.bind (·.mapM Step.ofJson?) with
  | none => .error .invalid
  | some steps => if maxSteps < steps.length then .error (.tooLong steps.length) else .ok steps

/-- A step, what came of it, and the intents that it left. -/
structure Entry where
  step : Step
  outcome : Option Outcome
  intents : List Action
  /-- The tour after the step. -/
  after : Tour

/-- Performs a step and hands its intents over. -/
def perform (t : Tour) (step : Step) : Entry :=
  let (outcome, t) := t.step step.operation
  let (intents, t) := t.takeIntents
  ⟨step, outcome, intents, t⟩

def replayFrom (log : List Entry) (t : Tour) : List Step → List Entry × Tour
  | [] => (log.reverse, t)
  | step :: steps =>
    let entry := perform t step
    replayFrom (entry :: log) entry.after steps

/-- Performs the steps of a script one after the other. -/
def replay (t : Tour) (steps : List Step) : List Entry × Tour := replayFrom [] t steps

end Script

end GuidedTour
