import GuidedTour.Progress
import GuidedTour.Wire.Action

/-! Written sessions and progress figures as they are sent. -/
namespace GuidedTour

namespace Route

def toJson (r : Route) : Json :=
  .object [("route", .text r.name), ("params", .texts r.params)]

def ofJson? (j : Json) : Option Route := do
  let fields ← (← Wire.Payload.ofJson? j).read? (Wire.slots ["route", "params"])
  let name ← Wire.required? fields "route" Json.text?
  let params ← Wire.required? fields "params" Json.texts?
  return ⟨name, params⟩

end Route

namespace FlowParams

def toJson (p : FlowParams) : Json := .object [("mount_type", .optional .text p.mountType)]

def ofJson? (j : Json) : Option FlowParams := do
  let fields ← (← Wire.Payload.ofJson? j).read? [⟨"mount_type", true⟩]
  let mountType ← Wire.optional? fields "mount_type" Json.text?
  return ⟨mountType⟩

end FlowParams

namespace Screen

def toJson (s : Screen) : Json :=
  .object (s.toList.map fun (region, component) => (region.name, .text component))

def ofJson? (j : Json) : Option Screen := do
  let entries ← (← j.fields?).mapM fun (name, component) => do
    return (← Region.ofName? name, ← component.text?)
  return ofList entries

end Screen

namespace Record

def names : List String :=
  ["tutorial_state", "current_machine", "current_state", "feature_machine_history",
    "completed_features", "feature_list", "params", "regions", "show_when_unauthenticated",
    "current_route", "resume_route"]

def toJson (r : Record) : Json :=
  .object [
    ("tutorial_state", .text r.tutorial),
    ("current_machine", .optional Feature.toJson r.machine),
    ("current_state", .optional .text r.state),
    ("feature_machine_history", .texts r.history),
    ("completed_features", .list (r.completed.toList.map Feature.toJson)),
    ("feature_list", .list (r.plan.map Feature.toJson)),
    ("params", r.params.toJson),
    ("regions", r.screen.toJson),
    ("show_when_unauthenticated", .flag r.shownBeforeLogin),
    ("current_route", .optional Route.toJson r.route),
    ("resume_route", .optional Route.toJson r.resumeRoute)]

def features? (j : Json) : Option (List Feature) :=
  j.list?.bind (·.mapM Feature.ofJson?)

def ofJson? (j : Json) : Option Record := do
  let fields ← (← Wire.Payload.ofJson? j).read? (Wire.slots names)
  return {
    tutorial := ← Wire.required? fields "tutorial_state" Json.text?
    machine := ← Wire.optional? fields "current_machine" Feature.ofJson?
    state := ← Wire.optional? fields "current_state" Json.text?
    history := ← Wire.required? fields "feature_machine_history" Json.texts?
    completed := .ofList (← Wire.required? fields "completed_features" features?)
    plan := ← Wire.required? fields "feature_list" features?
    params := ← Wire.required? fields "params" FlowParams.ofJson?
    screen := ← Wire.required? fields "regions" Screen.ofJson?
    shownBeforeLogin := ← Wire.required? fields "show_when_unauthenticated" Json.flag?
    route := ← Wire.optional? fields "current_route" Route.ofJson?
    resumeRoute := ← Wire.optional? fields "resume_route" Route.ofJson? }

end Record

namespace Progress

def Position.fields (p : Position) : List (String × Json) :=
  [("step", .nat p.step), ("total_steps", .nat p.total), ("percentage", .nat p.percentage),
    ("text", .text p.text)]

def currentJson (r : Record) : Json :=
  .optional (fun (feature, position) =>
    .object (("feature", feature.toJson) :: position.fields)) (current r)

def Segment.toJson (s : Segment) : Json :=
  .object [("feature", s.feature.toJson), ("label", .text s.feature.title),
    ("percentage", .nat s.percentage), ("status", .text s.status.name)]

/-- All figures about a session. -/
def fields (r : Record) : List (String × Json) :=
  [("feature", currentJson r), ("bar", .list ((bar r).map Segment.toJson)),
    ("tutorial", .optional (fun position => .object position.fields) (initialization r)),
    ("plan_minutes", .nat (planMinutes r))]

def toJson (r : Record) : Json := .object (fields r)

end Progress

end GuidedTour
