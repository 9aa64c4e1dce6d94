import GuidedTour.Session
import GuidedTour.Json.Reader
import GuidedTour.Wire.Payload

/-! Request bodies. A body is read first, whatever its fields hold; what it asks for is
taken from it afterwards, and refused where a name is unknown, empty or too long. Lengths
count the bytes of the UTF-8 form. -/
namespace GuidedTour.Service

def maxNameBytes : Nat := 64

def maxMountTypeBytes : Nat := 128

def maxRouteBytes : Nat := 256

/-- Why a well-formed body is not accepted. -/
inductive Unfit where
  | empty (field : String)
  | nameTooLong (field : String) (bytes : Nat)
  | mountTypeTooLong (bytes : Nat)
  | segmentTooLong (bytes : Nat)
  | unknownFeature (unknown : Feature.Unknown)
  deriving DecidableEq, Repr

def Unfit.message : Unfit → String
  | empty field => "Deserialization error: " ++ field ++ " is empty"
  | nameTooLong field bytes =>
    "Deserialization error: " ++ field ++ " length " ++ toString bytes ++
      " exceeds maximum " ++ toString maxNameBytes ++ " bytes"
  | mountTypeTooLong bytes =>
    "Deserialization error: mount_type length " ++ toString bytes ++
      " exceeds maximum " ++ toString maxMountTypeBytes ++ " bytes"
  | segmentTooLong bytes =>
    "Deserialization error: route segment of " ++ toString bytes ++
      " bytes exceeds maximum " ++ toString maxRouteBytes ++ " bytes"
  | unknownFeature unknown => unknown.message

/-- An event or state name from outside. -/
def checkName (field value : String) : Except Unfit Unit :=
  if value.isEmpty then .error (.empty field)
  else if maxNameBytes < value.utf8ByteSize then .error (.nameTooLong field value.utf8ByteSize)
  else .ok ()

def parseFeatures (names : List String) : Except Unfit (List Feature) :=
  (Feature.parseAll names).mapError .unknownFeature

/-- Reads a body of the given fields and takes its parts. -/
def readBody (fields : List Json.Field) (take : List (String × Json) → Option α)
    (text : String) : Except Json.Fault α := do
  match take (← Json.readRecord fields text) with
  | some a => return a
  | none => throw .mismatch

/-- An event, the state that the client believes it is in, and a mount type. -/
structure EventBody where
  event : String
  state : Option String := none
  mountType : Option String := none
  deriving DecidableEq, Repr

namespace EventBody

def fields : List Json.Field :=
  [⟨"event", .text, true⟩, ⟨"state", .optional .text, false⟩, ⟨"mount_type", .optional .text, false⟩]

def read : String → Except Json.Fault EventBody :=
  readBody fields fun read => do
    return {
      event := ← Wire.required? read "event" Json.text?
      state := ← Wire.optional? read "state" Json.text?
      mountType := ← Wire.optional? read "mount_type" Json.text? }

def toEvent (b : EventBody) : Except Unfit String := do
  checkName "event" b.event
  return b.event

def toState (b : EventBody) : Except Unfit (Option String) := do
  b.state.forM (checkName "state")
  return b.state

def toParams (b : EventBody) : Except Unfit (Option FlowParams) :=
  match b.mountType with
  | none => .ok none
  | some m =>
    if maxMountTypeBytes < m.utf8ByteSize then .error (.mountTypeTooLong m.utf8ByteSize)
    else .ok (some ⟨some m⟩)

end EventBody

/-- A place that the router went to on its own. -/
structure RouteBody where
  route : Route
  deriving DecidableEq, Repr

namespace RouteBody

def fields : List Json.Field := [⟨"route", .text, true⟩, ⟨"params", .list .text, false⟩]

def read : String → Except Json.Fault RouteBody :=
  readBody fields fun read => do
    let name ← Wire.required? read "route" Json.text?
    let params ← Wire.default? read "params" [] Json.texts?
    return ⟨⟨name, params⟩⟩

def toRoute (b : RouteBody) : Except Unfit Route :=
  if b.route.name.isEmpty then .error (.empty "route")
  else match (b.route.name :: b.route.params).find? (maxRouteBytes < ·.utf8ByteSize) with
    | some segment => .error (.segmentTooLong segment.utf8ByteSize)
    | none => .ok b.route

end RouteBody

/-- A plan, as feature names. -/
structure PlanBody where
  features : List String
  deriving DecidableEq, Repr

namespace PlanBody

def fields : List Json.Field := [⟨"features", .list .text, true⟩]

def read : String → Except Json.Fault PlanBody :=
  readBody fields fun read => do
    return ⟨← Wire.required? read "features" Json.texts?⟩

def toFeatures (b : PlanBody) : Except Unfit (List Feature) := parseFeatures b.features

end PlanBody

/-- A new session: whether an operator is logged in, and a plan to start with. -/
structure OpenBody where
  authenticated : Bool := true
  features : Option (List String) := none
  deriving DecidableEq, Repr

namespace OpenBody

def fields : List Json.Field :=
  [⟨"authenticated", .flag, false⟩, ⟨"features", .optional (.list .text), false⟩]

def read : String → Except Json.Fault OpenBody :=
  readBody fields fun read => do
    return {
      authenticated := ← Wire.default? read "authenticated" true Json.flag?
      features := ← Wire.optional? read "features" Json.texts? }

/-- Nothing if the body leaves the plan to the server. -/
def toFeatures (b : OpenBody) : Except Unfit (Option (List Feature)) :=
  match b.features with
  | none => .ok none
  | some names => (parseFeatures names).map some

end OpenBody

end GuidedTour.Service
