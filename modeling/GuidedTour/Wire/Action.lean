import GuidedTour.Feature
import GuidedTour.Machine.Basic
import GuidedTour.Wire.Payload
import GuidedTour.Json.Reader

/-! Features, actions and outcomes as they are sent. -/
namespace GuidedTour

def Feature.toJson (f : Feature) : Json := .text f.name

def Feature.ofJson? (j : Json) : Option Feature := (Wire.word? j).bind ofName?

/-- A feature within a tagged value. -/
def Feature.ofTagged? (j : Json) : Option Feature := (Wire.taggedWord? j).bind ofName?

/-- A region, which only a tagged value names. -/
def Region.ofTagged? (j : Json) : Option Region := (Wire.taggedWord? j).bind ofName?

namespace Action

def toJson (action : Action) : Json :=
  .object <| ("type", .text action.tag) :: match action with
    | render region component =>
      [("level", .text region.name), ("component", .optional .text component)]
    | navigate route => [("route", .text route.name), ("params", .texts route.params)]
    | _ => []

def renderSlots : List Wire.Slot := Wire.slots ["level", "component"]

def navigateSlots : List Wire.Slot := [⟨"route", false⟩, ⟨"params", true⟩]

/-- The parameters of a route may be left out; the component may be left out by name. -/
def ofJson? (j : Json) : Option Action := do
  let (tag, payload) ← Wire.Payload.tagged? "type" j
  if tag = "render" then
    let fields ← payload.read? renderSlots
    let region ← Wire.required? fields "level" Region.ofTagged?
    let component ← Wire.optional? fields "component" Json.text?
    return render region component
  else if tag = "routeTransition" then
    let fields ← payload.read? navigateSlots
    let name ← Wire.required? fields "route" Json.text?
    let params ← Wire.default? fields "params" [] Json.texts?
    return navigate ⟨name, params⟩
  else
    let action ← plain.find? (·.tag == tag)
    if payload.isBare then return action else none

/-- Reads the text of an action. -/
def parse? (text : String) : Option Action := (Json.parse? text).bind ofJson?

end Action

def Outcome.toJson (o : Outcome) : Json :=
  .object [("value", .text o.state), ("actions", .list (o.actions.map Action.toJson)),
    ("handled", .flag o.handled)]

end GuidedTour
