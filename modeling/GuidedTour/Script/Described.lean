import GuidedTour.Script.Basic
import GuidedTour.Text.Quoted

/-! How steps and intents are shown to an operator: the kind, and the fields in braces. -/
namespace GuidedTour

namespace Text

/-- A kind with its fields, each a name and what is shown for it. -/
def shownFields (kind : String) (fields : List (String × String)) : String :=
  kind ++ " \x7b " ++ ", ".intercalate (fields.map fun (name, shown) => name ++ ": " ++ shown) ++ " \x7d"

def shownList (shown : List String) : String := "[" ++ ", ".intercalate shown ++ "]"

def shownOptional : Option String → String
  | some shown => "Some(" ++ shown ++ ")"
  | none => "None"

end Text

namespace Route

def shownFields (r : Route) : List (String × String) :=
  [("route", Text.quoted r.name), ("params", Text.shownList (r.params.map Text.quoted))]

end Route

namespace Script.Step

def shown : Step → String
  | tutorial event => Text.shownFields "Tutorial" [("event", Text.quoted event)]
  | feature event mountType =>
    Text.shownFields "Feature"
      [("event", Text.quoted event),
        ("mount_type", Text.shownOptional (mountType.map Text.quoted))]
  | select features =>
    Text.shownFields "Select" [("features", Text.shownList (features.map Feature.title))]
  | route r => Text.shownFields "Route" r.shownFields
  | restart => "Restart"
  | reset => "Reset"

end Script.Step

namespace Action

def shownKind : Action → String
  | render .. => "Render"
  | navigate .. => "RouteTransition"
  | completeFeature => "CompleteFeature"
  | handleDismissed => "HandleDismissed"
  | handlePaused => "HandlePaused"
  | handleResume => "HandleResume"
  | showAlways => "ShowTutorialAlways"
  | showWhenAuthenticated => "ShowTutorialWhenAuthenticated"
  | clearFeatureData => "ClearFeatureData"

def shown (action : Action) : String :=
  match action with
  | render region component =>
    let component := component.map fun c => "ComponentName(" ++ Text.quoted c ++ ")"
    Text.shownFields action.shownKind
      [("level", region.title), ("component", Text.shownOptional component)]
  | navigate r => Text.shownFields action.shownKind r.shownFields
  | _ => action.shownKind

end Action

end GuidedTour
