import GuidedTour.Tour.Operation

/-! A tour that keeps its record up to date field by field. The feature of the active flow, its
state and its history are fields of their own, and every change sets or clears each of them.
Completing a flow and performing what its successor begins with call each other, with no measure in
sight, so what actions and operations come to is a relation. -/
namespace GuidedTour

structure Ledger where
  registry : Registry
  record : Record
  /-- Queued intents, oldest first. -/
  intents : List Action := []

namespace Ledger

def fresh (r : Registry) : Ledger where
  registry := r
  record := { tutorial := r.tutorial.initial }

def queue (l : Ledger) (intent : Action) : Ledger := { l with intents := l.intents ++ [intent] }

def clearFeatures (l : Ledger) : Ledger :=
  { l with
    record.plan := []
    record.machine := none
    record.state := none
    record.history := []
    record.params := {} }

/-- Effect of an action other than a completion. -/
def perform (l : Ledger) (action : Action) : Ledger :=
  match action with
  | .render region component =>
    { l with record.screen := l.record.screen.set region component }.queue action
  | .navigate route => { l with record.route := some route }.queue action
  | .completeFeature => l
  | .handleDismissed | .clearFeatureData => l.clearFeatures
  | .handlePaused => { l with record.resumeRoute := l.record.route }
  | .handleResume =>
    match l.record.resumeRoute with
    | some route =>
      { l with record.resumeRoute := none, record.route := some route }.queue (.navigate route)
    | none => l
  | .showAlways => { l with record.shownBeforeLogin := true }
  | .showWhenAuthenticated => { l with record.shownBeforeLogin := false }

/-- The feature behind the first place of the active one in the plan. -/
def nextFeature (l : Ledger) : Option Feature := do
  let current ← l.record.machine
  let place ← l.record.plan.findIdx? (· = current)
  l.record.plan[place + 1]?

/-- Starts a flow; its entry actions are still to be performed. -/
def startFeature (l : Ledger) (f : Feature) : Ledger :=
  let initial := (l.registry.flow f).initial
  { l with
    record.machine := some f
    record.state := some initial
    record.params := {}
    record.history := [initial] }

def complete (l : Ledger) (f : Feature) : Ledger :=
  { l with record.completed := l.record.completed.insert f }

def endFlow (l : Ledger) : Ledger :=
  { l with record.machine := none, record.state := none, record.history := [] }

/-- Records the state that an event led to. A state that is already recorded cuts the history off
behind its first place. -/
def visit (l : Ledger) (event state : String) (terminal : Bool) : Ledger :=
  if terminal then l
  else if event = "RESET" then { l with record.history := [state] }
  else match l.record.history.findIdx? (· = state) with
    | some place => { l with record.history := l.record.history.take (place + 1) }
    | none => { l with record.history := l.record.history ++ [state] }

/-- The answer to an event for the tutorial, the actions that it leaves to be performed, and the
ledger that performs them. -/
def tutorialFrom (l : Ledger) (state event : String) : Outcome × List Action × Ledger :=
  if state ≠ l.record.tutorial then (.unhandled state, [], l)
  else
    let outcome := l.registry.tutorial.transition state event {}
    if outcome.handled then (outcome, outcome.actions, { l with record.tutorial := outcome.state })
    else (outcome, [], l)

def tutorial (l : Ledger) (event : String) : Outcome × List Action × Ledger :=
  l.tutorialFrom l.record.tutorial event

def moved (l : Ledger) (f : Feature) (event : String) (params : FlowParams) (outcome : Outcome) :
    Ledger :=
  let l := { l with record.params := params }
  let l := l.visit event outcome.state ((l.registry.flow f).isTerminal outcome.state)
  { l with record.state := some outcome.state }

/-- The answer to an event for the active flow, and what it leaves to be performed. -/
def flowFrom (l : Ledger) (state event : String) (given : Option FlowParams) :
    Outcome × List Action × Ledger :=
  match l.record.machine with
  | none => (.unhandled state, [], l)
  | some f =>
    if !"active.".toList.isPrefixOf l.record.tutorial.toList then (.unhandled state, [], l)
    else if l.record.state ≠ some state then (.unhandled state, [], l)
    else
      let params := given.getD l.record.params
      let outcome := (l.registry.flow f).transition state event ⟨some params, l.record.history⟩
      if outcome.handled then (outcome, outcome.actions, l.moved f event params outcome)
      else (outcome, [], l)

/-- What an operation begins with. -/
def opening (l : Ledger) : Operation → Option Outcome × List Action × Ledger
  | .tutorial none event => (l.tutorial event).map some id
  | .tutorial (some state) event => (l.tutorialFrom state event).map some id
  | .flow none event given =>
    match l.record.state with
    | some state => (l.flowFrom state event given).map some id
    | none => (some (.unhandled l.record.tutorial), [], l)
  | .flow (some state) event given => (l.flowFrom state event given).map some id
  | .select features =>
    match Feature.distinct features with
    | [] => (none, [], l.clearFeatures)
    | first :: rest =>
      (none, Tour.beginActions l.registry first,
        { l with record.plan := first :: rest }.startFeature first)
  | .observe route => (none, [], { l with record.route := some route })
  | .dismiss => (l.tutorial "DISMISS").map some id
  | .restart => ((fresh l.registry).tutorial "AUTH").map some id
  | .reset =>
    (none, l.registry.tutorial.entryActions l.registry.tutorial.initial, fresh l.registry)

/-- Performing some actions leads from one ledger to another. -/
inductive Applies : List Action → Ledger → Ledger → Prop where
  | nil (l : Ledger) : Applies [] l l
  | act {action rest l after} : action ≠ .completeFeature → Applies rest (l.perform action) after →
      Applies (action :: rest) l after
  | idle {rest l after} : l.record.machine = none → Applies rest l after →
      Applies (.completeFeature :: rest) l after
  | next {f g rest l between after} : l.record.machine = some f →
      (l.complete f).nextFeature = some g →
      Applies (Tour.beginActions l.registry g) ((l.complete f).startFeature g) between →
      Applies rest between after → Applies (.completeFeature :: rest) l after
  | last {f rest l between after} : l.record.machine = some f →
      (l.complete f).nextFeature = none →
      Applies ((l.complete f).endFlow.tutorial "DONE").2.1
        ((l.complete f).endFlow.tutorial "DONE").2.2 between →
      Applies rest between after → Applies (.completeFeature :: rest) l after

/-- A plan was selected, and the tutorial waits for it. -/
def Waits (l : Ledger) : Operation → Prop
  | .select features => features ≠ [] ∧ l.record.tutorial = "active.select"
  | _ => False

/-- An operation is answered, and leads from one ledger to another. -/
inductive Operates (l : Ledger) (op : Operation) : Option Outcome → Ledger → Prop where
  | once {after} : Applies (l.opening op).2.1 (l.opening op).2.2 after → ¬after.Waits op →
      Operates l op (l.opening op).1 after
  | twice {between after} : Applies (l.opening op).2.1 (l.opening op).2.2 between →
      between.Waits op →
      Applies (between.tutorial "CONTINUE").2.1 (between.tutorial "CONTINUE").2.2 after →
      Operates l op (l.opening op).1 after

/-- What an outside can make of a ledger: it begins anew or from a record that fits, takes one
operation after the other, and its queue is taken now and then. -/
inductive Reached (r : Registry) : Ledger → Prop where
  | enter {l} : Applies (r.tutorial.entryActions r.tutorial.initial) (fresh r) l → Reached r l
  | resume {record} : record.defect? r = none → Reached r ⟨r, record, []⟩
  | operate {l op outcome after} : Reached r l → l.Operates op outcome after → Reached r after
  | take {l} : Reached r l → Reached r { l with intents := [] }

end Ledger

end GuidedTour
