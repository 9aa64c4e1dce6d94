import GuidedTour.Config.Basic
import GuidedTour.Service.Access
import GuidedTour.Service.Limiter
import GuidedTour.Service.Reply
import GuidedTour.Service.Sessions

/-! A server of tours. A host holds what never changes while it runs; the open sessions and what
its limiter was asked are its state. A request first has to pass the limiter, if there is one.
Behind it, it has to show the key; then it is turned into a command, and only a command touches
the sessions, at most one of them. -/
namespace GuidedTour.Service

structure Host where
  registry : Registry
  /-- Plan of a session that does not bring its own. -/
  plan : List Feature
  /-- Sessions that may be open at the same time. -/
  limit : Nat
  key : Option String
  origins : Origins
  /-- Requests a second that the limiter lets through; without a quota there is none. -/
  quota : Option Nat

/-- What changes while a server runs. -/
structure State where
  sessions : Sessions := {}
  /-- When the limiter was asked, latest first. -/
  asked : List Nat := []

/-- Why settings do not start a server. -/
inductive StartFault where
  | unknownFeature (unknown : Feature.Unknown)
  /-- The wildcard is one origin of several. -/
  | wildcardListed
  deriving DecidableEq, Repr

namespace Host

def start (registry : Registry) (config : Config) : Except StartFault Host := do
  let plan ← config.plan.mapError .unknownFeature
  match Origins.ofSetting? config.corsOrigins with
  | some origins =>
    return ⟨registry, plan, config.maxSessions, config.apiKey, origins, config.quota?⟩
  | none => throw .wildcardListed

/-- A new tour. Only an authenticated operator starts it, with a plan if there is one. -/
def welcome (host : Host) (authenticated : Bool) (plan : List Feature) : Tour :=
  let t := Tour.enter host.registry
  if authenticated then
    let t := t.restart.2
    if plan.isEmpty then t else t.select plan
  else t

/-- Applies an operation to a session and hands over the intents that it left. -/
def change (s : Sessions) (id : Nat) (operate : Tour → α × Tour) (reply : α → View → Reply) :
    Reply × Sessions :=
  match s.find? id with
  | none => (.refused (.noSession id), s)
  | some t =>
    let (a, t) := operate t
    let (intents, t) := t.takeIntents
    (reply a (.of id t intents), s.replace id t)

def execute (host : Host) (s : Sessions) : Command → Reply × Sessions
  | .health => (.health, s)
  | .machines => (.machines host.registry, s)
  | .openSession authenticated plan =>
    if host.limit ≤ s.size then (.refused (.sessionLimit host.limit), s)
    else
      let (intents, t) := (host.welcome authenticated (plan.getD host.plan)).takeIntents
      (.opened (.of s.nextId t intents), s.insert t)
  | .describe id =>
    match s.find? id with
    | none => (.refused (.noSession id), s)
    | some t => (.described (.of id t t.intents), s)
  | .close id =>
    match s.find? id with
    | none => (.refused (.noSession id), s)
    | some _ => (.done, s.erase id)
  | .select id features => change s id (fun t => ((), t.select features)) fun _ => .described
  | .tutorial id state event =>
    change s id (fun t => match state with
      | some state => t.tutorialFrom state event
      | none => t.tutorial event) .moved
  | .flow id state event params =>
    change s id (fun t => match state with
      | some state => t.flowFrom state event params
      | none => t.flow event params) .moved
  | .observe id route =>
    match s.find? id with
    | none => (.refused (.noSession id), s)
    | some t => (.done, s.replace id (t.observe route))
  | .restart id => change s id Tour.restart .moved
  | .progress id =>
    match s.find? id with
    | none => (.refused (.noSession id), s)
    | some t => (.progress t.session.record, s)

/-- Everything but the health check is behind the key. -/
def isAdmitted (host : Host) (r : Request) : Bool :=
  match host.key with
  | none => true
  | some key => r.path = "/health".toList || admits key (r.header? "authorization")

/-- What is replied behind the limiter. -/
def reply (host : Host) (s : Sessions) (r : Request) : Reply × Sessions :=
  if r.method = "OPTIONS" then (.preflight, s)
  else if !host.isAdmitted r then (.refused .unauthorized, s)
  else match r.command with
    | .error refusal => (.refused refusal, s)
    | .ok command => host.execute s command

/-- What is sent back. -/
structure Response where
  status : Nat
  content : Content
  /-- Origin that may read the answer. -/
  allowedOrigin : Option String

/-- What is sent is left out for `HEAD`. -/
def withoutContent (content : Content) : Content :=
  match content with
  | .text _ => .text ""
  | _ => .empty

/-- How a reply is sent back. -/
def answer (host : Host) (r : Request) (reply : Reply) : Response where
  status := reply.status
  content := if r.method = "HEAD" then withoutContent reply.content else reply.content
  allowedOrigin := host.origins.allowed (r.header? "origin")

def respond (host : Host) (s : Sessions) (r : Request) : Response × Sessions :=
  let (reply, s) := host.reply s r
  (host.answer r reply, s)

/-- Answers requests in order, behind the limiter. -/
def respondAll (host : Host) (s : Sessions) : List Request → List Response × Sessions
  | [] => ([], s)
  | r :: rest =>
    let (response, s) := host.respond s r
    let (responses, s) := respondAll host s rest
    (response :: responses, s)

/-- The quota that a request counts towards. What browsers ask before they call does not count. -/
def quotaFor? (host : Host) (r : Request) : Option Nat :=
  if r.method = "OPTIONS" then none else host.quota

/-- Whether a call gets past the limiter. -/
def lets (host : Host) (limiter : Limiter) (s : State) (call : Call) : Bool :=
  (host.quotaFor? call.request).all fun quota => limiter quota s.asked call.time

/-- Replies to a call that comes from outside. A call that is not let through was asked about,
too. -/
def handle (host : Host) (limiter : Limiter) (s : State) (call : Call) : Reply × State :=
  let asked := if (host.quotaFor? call.request).isSome then call.time :: s.asked else s.asked
  if host.lets limiter s call then
    let (reply, sessions) := host.reply s.sessions call.request
    (reply, ⟨sessions, asked⟩)
  else (.limited, ⟨s.sessions, asked⟩)

/-- Replies to calls in order. -/
def handleAll (host : Host) (limiter : Limiter) (s : State) : List Call → List Reply × State
  | [] => ([], s)
  | call :: rest =>
    let (reply, s) := host.handle limiter s call
    let (replies, s) := handleAll host limiter s rest
    (reply :: replies, s)

def serve (host : Host) (limiter : Limiter) (s : State) (call : Call) : Response × State :=
  let (reply, s) := host.handle limiter s call
  (host.answer call.request reply, s)

/-- Answers calls in order. -/
def serveAll (host : Host) (limiter : Limiter) (s : State) : List Call → List Response × State
  | [] => ([], s)
  | call :: rest =>
    let (response, s) := host.serve limiter s call
    let (responses, s) := serveAll host limiter s rest
    (response :: responses, s)

end Host

end GuidedTour.Service
