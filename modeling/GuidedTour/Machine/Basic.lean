import GuidedTour.Action
import GuidedTour.Table

/-! State machines as data, and their transition function. An event takes the
first open edge of the state itself, then of the whole machine; it runs the exit
actions of the source, the edge's own, and the entry actions of the target. An
event with no open edge changes nothing, which is no error. -/
namespace GuidedTour

/-- What guards may read besides the current state. -/
structure Context where
  params : Option FlowParams := none
  history : List String := []
  deriving DecidableEq, Repr

def Context.mountType (ctx : Context) : Option String :=
  ctx.params.bind (·.mountType)

inductive Guard where
  | always
  /-- A mount type is chosen and listed. -/
  | mountIn (types : List String)
  /-- No mount type is chosen, or it is not listed. -/
  | mountNotIn (types : List String)
  /-- The state is recorded in the history of the flow. -/
  | visited (state : String)
  deriving DecidableEq, Repr

def Guard.holds (ctx : Context) : Guard → Bool
  | always => true
  | mountIn types => match ctx.mountType with
    | some chosen => types.contains chosen
    | none => false
  | mountNotIn types => match ctx.mountType with
    | some chosen => !types.contains chosen
    | none => true
  | visited state => ctx.history.contains state

/-- One guarded way out of a state. -/
structure Edge where
  target : String
  guard : Guard := .always
  actions : List Action := []
  deriving DecidableEq, Repr

/-- A state: its edges by event, in the order in which they are tried. -/
structure Node where
  edges : Table (List Edge) := .empty
  entry : List Action := []
  exit : List Action := []
  /-- Machine-wide events that pass this state by. -/
  ignored : NameSet := .empty
  /-- No machine-wide event applies here. -/
  absorbing : Bool := false
  deriving DecidableEq, Repr

/-- A terminal state has no edge of its own, or absorbs. -/
def Node.isTerminal (node : Node) : Bool :=
  node.edges.isEmpty || node.absorbing

/-- Result of one event: the state after it, and the actions in running order. -/
structure Outcome where
  state : String
  actions : List Action
  handled : Bool
  deriving DecidableEq, Repr

/-- The event did nothing. -/
def Outcome.unhandled (state : String) : Outcome := ⟨state, [], false⟩

structure Machine where
  key : String
  initial : String
  /-- Edges that leave every state. -/
  globals : Table (List Edge) := .empty
  states : Table Node := .empty
  deriving DecidableEq, Repr

namespace Machine

def contains (m : Machine) (state : String) : Bool := m.states.contains state

def isTerminal (m : Machine) (state : String) : Bool :=
  (m.states.find? state).any Node.isTerminal

/-- Actions that run when a state is entered. -/
def entryActions (m : Machine) (state : String) : List Action :=
  match m.states.find? state with
  | some node => node.entry
  | none => []

/-- Edges that an event may take from a state, in the order in which they are tried. -/
def edgesFrom (m : Machine) (node : Node) (event : String) : List Edge :=
  let global := if node.absorbing || node.ignored.contains event then none
    else m.globals.find? event
  (node.edges.find? event).getD [] ++ global.getD []

def transition (m : Machine) (state event : String) (ctx : Context) : Outcome :=
  match m.states.find? state with
  | none => .unhandled state
  | some node =>
    match (m.edgesFrom node event).find? (·.guard.holds ctx) with
    | none => .unhandled state
    | some edge =>
      match m.states.find? edge.target with
      | none => .unhandled state
      | some target => ⟨edge.target, node.exit ++ edge.actions ++ target.entry, true⟩

end Machine

end GuidedTour
