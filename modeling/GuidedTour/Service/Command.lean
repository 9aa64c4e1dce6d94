import GuidedTour.Tour.Operation
import GuidedTour.Service.Body
import GuidedTour.Service.MediaType
import GuidedTour.Service.Sessions
import GuidedTour.Text.Numeral
import GuidedTour.Text.Percent
import GuidedTour.Text.Split

/-! What a request asks for. This does not depend on the sessions that are open: the path
and the method choose the command, then come the session id, the kind and the size of the
body, its text, and last what its fields hold. The first fault refuses the request. -/
namespace GuidedTour.Service

structure Request where
  method : String
  /-- Path, and whatever follows it; a scheme and a host may stand in front. -/
  target : String
  headers : List (String × String) := []
  /-- A text: bodies that are none are left out. -/
  body : String := ""
  deriving DecidableEq, Repr

/-- First header of a name; letter case does not count. -/
def Request.header? (r : Request) (name : String) : Option String :=
  (r.headers.find? fun (n, _) => n.map Char.toLower == name).map (·.2)

/-- What stands after the first place of `mark`, if there is one. -/
def after? (mark : List Char) : List Char → Option (List Char)
  | [] => none
  | c :: rest => if mark.isPrefixOf (c :: rest) then some ((c :: rest).drop mark.length)
    else after? mark rest

/-- The path ends where a query or a fragment begins. After a host it may be missing, which
means the root. -/
def Request.path (r : Request) : List Char :=
  let target := r.target.toList
  let isOver (c : Char) := c = '?' || c = '#'
  match if target.head? = some '/' then none else after? "://".toList target with
  | none => target.takeWhile (!isOver ·)
  | some rest =>
    let path := (rest.dropWhile fun c => c ≠ '/' && !isOver c).takeWhile (!isOver ·)
    if path.isEmpty then ['/'] else path

inductive Command where
  | health
  | machines
  /-- Nothing stands for the default plan. -/
  | openSession (authenticated : Bool) (plan : Option (List Feature))
  | describe (id : Nat)
  | close (id : Nat)
  | select (id : Nat) (features : List Feature)
  | tutorial (id : Nat) (state : Option String) (event : String)
  | flow (id : Nat) (state : Option String) (event : String) (params : Option FlowParams)
  | observe (id : Nat) (route : Route)
  | restart (id : Nat)
  | progress (id : Nat)
  deriving DecidableEq, Repr

/-- Why a request is refused. -/
inductive Refusal where
  | unauthorized
  | unknownPath
  | unknownMethod
  | badId
  | notJson
  | bodyTooLarge
  /-- The body does not have the fields that are expected, or is no JSON at all. -/
  | unreadable (fault : Json.Fault)
  | unfit (reason : Unfit)
  | noSession (id : Nat)
  | sessionLimit (limit : Nat)
  deriving DecidableEq, Repr

def maxBodyBytes : Nat := 65536

/-- A session id as it stands in a path. -/
def readId (cs : List Char) : Except Refusal Nat :=
  match (Text.Percent.decode? cs).bind fun s => Text.unsigned? maxId s.toList with
  | some id => .ok id
  | none => .error .badId

/-- Reads the body, which has to be declared as JSON and must not be too large. -/
def Request.readBody (r : Request) (read : String → Except Json.Fault α) : Except Refusal α :=
  if !(r.header? "content-type").any MediaType.isJson then .error .notJson
  else if maxBodyBytes < r.body.utf8ByteSize then .error .bodyTooLarge
  else (read r.body).mapError .unreadable

def fit (result : Except Unfit α) : Except Refusal α := result.mapError .unfit

/-- The commands on a path, by method. `HEAD` asks for what `GET` does. -/
inductive Resource where
  | health
  | machines
  | sessions
  | session (id : List Char)
  | features (id : List Char)
  | tutorial (id : List Char)
  | feature (id : List Char)
  | route (id : List Char)
  | restart (id : List Char)
  | progress (id : List Char)
  deriving DecidableEq, Repr

namespace Resource

/-- What stands under the id of a session. -/
def ofPart? (id : List Char) (part : String) : Option Resource :=
  if part = "features" then some (features id)
  else if part = "tutorial" then some (tutorial id)
  else if part = "feature" then some (feature id)
  else if part = "route" then some (route id)
  else if part = "restart" then some (restart id)
  else if part = "progress" then some (progress id)
  else none

/-- An id in front of a part may be empty: `/sessions//progress` is a known path with a malformed id
(400, or 405 for another method), as the router that is in use answers it. An id at the end may not:
`/sessions/` is no path at all (404). -/
def ofPath? (path : List Char) : Option Resource :=
  match Text.pieces '/' path with
  | [[], first] =>
    if first = "health".toList then some health
    else if first = "machines".toList then some machines
    else if first = "sessions".toList then some sessions
    else none
  | [[], first, id] => if first = "sessions".toList ∧ id ≠ [] then some (session id) else none
  | [[], first, id, part] =>
    if first = "sessions".toList then ofPart? id (String.ofList part) else none
  | _ => none

def isRead (method : String) : Bool := method = "GET" || method = "HEAD"

def command (resource : Resource) (r : Request) : Except Refusal Command :=
  match resource with
  | health => if isRead r.method then .ok .health else .error .unknownMethod
  | machines => if isRead r.method then .ok .machines else .error .unknownMethod
  | sessions => do
    if r.method ≠ "POST" then throw .unknownMethod
    let body ← r.readBody OpenBody.read
    return .openSession body.authenticated (← fit body.toFeatures)
  | session id =>
    if isRead r.method then (readId id).map .describe
    else if r.method = "DELETE" then (readId id).map .close
    else .error .unknownMethod
  | features id => do
    if r.method ≠ "PUT" then throw .unknownMethod
    let id ← readId id
    let body ← r.readBody PlanBody.read
    return .select id (← fit body.toFeatures)
  | tutorial id => do
    if r.method ≠ "POST" then throw .unknownMethod
    let id ← readId id
    let body ← r.readBody EventBody.read
    let event ← fit body.toEvent
    return .tutorial id (← fit body.toState) event
  | feature id => do
    if r.method ≠ "POST" then throw .unknownMethod
    let id ← readId id
    let body ← r.readBody EventBody.read
    let event ← fit body.toEvent
    let state ← fit body.toState
    return .flow id state event (← fit body.toParams)
  | route id => do
    if r.method ≠ "POST" then throw .unknownMethod
    let id ← readId id
    let body ← r.readBody RouteBody.read
    return .observe id (← fit body.toRoute)
  | restart id =>
    if r.method = "POST" then (readId id).map .restart else .error .unknownMethod
  | progress id =>
    if isRead r.method then (readId id).map .progress else .error .unknownMethod

end Resource

def Request.command (r : Request) : Except Refusal Command :=
  match Resource.ofPath? r.path with
  | none => .error .unknownPath
  | some resource => resource.command r

end GuidedTour.Service
