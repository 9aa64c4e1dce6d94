import GuidedTour.Session

/-! A running tour: a session over the shared registry, with the intents that
nobody has taken yet. Actions are performed one after the other. Completing the
active flow starts the next planned one, whose entry actions run before what is
left; completing the last one sends `DONE` to the tutorial. Each completion uses
up a planned feature, so this ends for every table. -/
namespace GuidedTour

structure Tour where
  registry : Registry
  session : Session
  /-- Queued intents, oldest first. -/
  intents : List Action := []

namespace Tour

def queue (t : Tour) (intent : Action) : Tour :=
  { t with intents := t.intents ++ [intent] }

/-- Effect of an action other than a completion. -/
def perform (t : Tour) (action : Action) : Tour :=
  match action with
  | .render region component =>
    { t with session.screen := t.session.screen.set region component }.queue action
  | .navigate route => { t with session.route := some route }.queue action
  | .completeFeature => t
  | .handleDismissed | .clearFeatureData => { t with session := t.session.clearFeatures }
  | .handlePaused => { t with session.resumeRoute := t.session.route }
  | .handleResume =>
    match t.session.resumeRoute with
    | some route =>
      { t with session.resumeRoute := none, session.route := some route }.queue (.navigate route)
    | none => t
  | .showAlways => { t with session.shownBeforeLogin := true }
  | .showWhenAuthenticated => { t with session.shownBeforeLogin := false }

/-- Starts a flow at its initial state; its entry actions are still to be performed. -/
def begin (t : Tour) (f : Feature) : Tour :=
  let initial := (t.registry.flow f).initial
  { t with session.flow := some ⟨f, initial, [initial]⟩, session.params := {} }

def beginActions (r : Registry) (f : Feature) : List Action :=
  (r.flow f).entryActions (r.flow f).initial

def markCompleted (t : Tour) (f : Feature) : Tour :=
  { t with session.completed := t.session.completed.insert f }

/-- The tutorial's answer to an event in its current state. -/
def tutorialOutcome (t : Tour) (event : String) : Outcome :=
  t.registry.tutorial.transition t.session.tutorial event {}

/-- Ends the last planned flow and moves the tutorial on; the actions of that move
are still to be performed. -/
def finish (t : Tour) : Tour × List Action :=
  let t := { t with session.flow := none }
  let outcome := t.tutorialOutcome "DONE"
  ({ t with session.tutorial := outcome.state }, outcome.actions)

/-- Performs actions in order and hands over at the first completion of a flow. -/
def performUntil (onComplete : Flow → List Action → Tour → Tour) : List Action → Tour → Tour
  | [], t => t
  | .completeFeature :: rest, t =>
    match t.session.flow with
    | some flow => onComplete flow rest t
    | none => performUntil onComplete rest t
  | action :: rest, t => performUntil onComplete rest (t.perform action)

/-- Performs actions in order. The first argument holds the planned features that
come after the active one. -/
def settle : List Feature → List Action → Tour → Tour
  | [] => performUntil fun flow rest t =>
    let (t, actions) := (t.markCompleted flow.feature).finish
    (actions ++ rest).foldl perform t
  | next :: ahead => performUntil fun flow rest t =>
    let t := (t.markCompleted flow.feature).begin next
    settle ahead (beginActions t.registry next ++ rest) t

def performAll (t : Tour) (actions : List Action) : Tour :=
  settle t.session.ahead actions t

/-- A fresh session. The entry actions of the tutorial's initial state run at once,
so its intents are the first in the queue. -/
def enter (r : Registry) : Tour :=
  Tour.performAll ⟨r, .fresh r, []⟩ (r.tutorial.entryActions r.tutorial.initial)

/-- Continues a written session, if it fits the registry. Nothing is queued. -/
def resume (r : Registry) (record : Record) : Except Record.Defect Tour :=
  match record.defect? r with
  | some defect => .error defect
  | none => .ok ⟨r, record.session, []⟩

/-- Hands the queued intents over. -/
def takeIntents (t : Tour) : List Action × Tour :=
  (t.intents, { t with intents := [] })

/-- Sends an event to the tutorial from a claimed state. A stale claim is a no-op,
and so is an event that the state does not handle. -/
def tutorialFrom (t : Tour) (state event : String) : Outcome × Tour :=
  if state ≠ t.session.tutorial then (.unhandled state, t)
  else
    let outcome := t.tutorialOutcome event
    if outcome.handled then
      (outcome, { t with session.tutorial := outcome.state }.performAll outcome.actions)
    else (outcome, t)

def tutorial (t : Tour) (event : String) : Outcome × Tour :=
  t.tutorialFrom t.session.tutorial event

/-- Records the state that an event led to: `RESET` starts the history again, a state
visited before cuts it back, a terminal state is never recorded. -/
def recordVisit (event state : String) (terminal : Bool) (history : List String) : List String :=
  if terminal then history
  else if event = "RESET" then [state]
  else if history.contains state then history.takeWhile (· ≠ state) ++ [state]
  else history ++ [state]

/-- The flow's answer to an event in its current state. -/
def flowOutcome (t : Tour) (flow : Flow) (event : String) (params : FlowParams) : Outcome :=
  (t.registry.flow flow.feature).transition flow.state event ⟨some params, flow.history⟩

/-- Sends an event to the active flow from a claimed state. Nothing happens without
a flow, while the tutorial is not active, on a stale claim, or when the state does
not handle the event. Given parameters replace the stored ones if it does. -/
def flowFrom (t : Tour) (state event : String) (params : Option FlowParams) : Outcome × Tour :=
  match t.session.flow with
  | none => (.unhandled state, t)
  | some flow =>
    if !t.session.isActive || state ≠ flow.state then (.unhandled state, t)
    else
      let params := params.getD t.session.params
      let outcome := t.flowOutcome flow event params
      if outcome.handled then
        let terminal := (t.registry.flow flow.feature).isTerminal outcome.state
        let history := recordVisit event outcome.state terminal flow.history
        let flow := { flow with state := outcome.state, history }
        (outcome,
          { t with session.params := params, session.flow := some flow }.performAll outcome.actions)
      else (outcome, t)

/-- Without an active flow the unhandled outcome carries the tutorial's state. -/
def flow (t : Tour) (event : String) (params : Option FlowParams) : Outcome × Tour :=
  match t.session.flow with
  | some flow => t.flowFrom flow.state event params
  | none => (.unhandled t.session.tutorial, t)

/-- Stores a plan and starts its first flow; a tutorial that waits for the selection
moves on. First occurrences count, and an empty plan only clears. -/
def select (t : Tour) (features : List Feature) : Tour :=
  match Feature.distinct features with
  | [] => { t with session := t.session.clearFeatures }
  | first :: rest =>
    let t := { t with session.plan := first :: rest }.begin first
    let t := t.performAll (beginActions t.registry first)
    if t.session.tutorial = "active.select" then (t.tutorial "CONTINUE").2 else t

/-- Records that the router navigated on its own. -/
def observe (t : Tour) (route : Route) : Tour :=
  { t with session.route := some route }

/-- Starts over for an authenticated operator. What was queued is dropped. -/
def restart (t : Tour) : Outcome × Tour :=
  Tour.tutorial ⟨t.registry, .fresh t.registry, []⟩ "AUTH"

/-- Closes the tour for good. -/
def dismiss (t : Tour) : Outcome × Tour := t.tutorial "DISMISS"

/-- Forgets everything and shows the idle screen. -/
def reset (t : Tour) : Tour := enter t.registry

/-- State to which `CONTINUE`, or else `REPEAT`, would move the active flow. -/
def nextStep (t : Tour) : Option String :=
  match t.session.flow with
  | none => none
  | some flow =>
    let peek (event : String) := t.flowOutcome flow event t.session.params
    if (peek "CONTINUE").handled then some (peek "CONTINUE").state
    else if (peek "REPEAT").handled then some (peek "REPEAT").state
    else none

/-- Planned feature after the active one. -/
def nextFeature (t : Tour) : Option Feature := t.session.ahead.head?

end Tour

end GuidedTour
