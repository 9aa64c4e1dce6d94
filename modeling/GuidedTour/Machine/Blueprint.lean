import GuidedTour.Machine.Basic

/-! A blueprint is a machine as it is written down: clauses in order. Clauses
about one event add edges, to be tried in that order; a state described again
replaces the earlier description. A blueprint is accepted exactly when its
machine has no defect, and refused with the first one. -/
namespace GuidedTour

inductive Node.Clause where
  | entry (action : Action)
  | exit (action : Action)
  | edge (event : String) (edge : Edge)
  | ignore (event : String)
  | absorb
  deriving DecidableEq, Repr

namespace Node

def add (node : Node) : Clause → Node
  | .entry action => { node with entry := node.entry ++ [action] }
  | .exit action => { node with exit := node.exit ++ [action] }
  | .edge event edge => { node with edges := node.edges.push event edge }
  | .ignore event => { node with ignored := node.ignored.insert event () }
  | .absorb => { node with absorbing := true }

def ofClauses (clauses : List Clause) : Node := clauses.foldl add {}

namespace Clause

def mount (region : Region) (component : String) : Clause := entry (.mount region component)

def clear (region : Region) : Clause := entry (.clear region)

def goTo (name : String) (params : List String := []) : Clause := entry (.goTo name params)

/-- An event that always leads to `target`. -/
def on (event target : String) : Clause := edge event { target }

def onWhen (event target : String) (guard : Guard) : Clause := edge event { target, guard }

def onWith (event target : String) (actions : List Action) : Clause :=
  edge event { target, actions }

end Clause

end Node

inductive Machine.Clause where
  /-- An event that leads from every state to `target`. -/
  | global (event target : String)
  | state (name : String) (clauses : List Node.Clause)
  deriving DecidableEq, Repr

/-- What makes a machine unusable. -/
inductive Machine.Defect where
  | emptyKey
  | initialUndefined (state : String)
  | unnamedEvent (source : String)
  | targetUndefined (source event target : String)
  | guardUndefined (source event state : String)
  | ignoredNotGlobal (state event : String)
  deriving DecidableEq, Repr

def Machine.Defect.reason : Machine.Defect → String
  | emptyKey => "machine key is empty"
  | initialUndefined state => "initial state '" ++ state ++ "' is not defined"
  | unnamedEvent source => "state '" ++ source ++ "' has an unnamed event"
  | targetUndefined source event target =>
    source ++ " --" ++ event ++ "--> '" ++ target ++ "': target is not defined"
  | guardUndefined source event state =>
    source ++ " --" ++ event ++ "-->: guard names unknown state '" ++ state ++ "'"
  | ignoredNotGlobal state event =>
    "state '" ++ state ++ "' ignores " ++ event ++ ", which is not a global event"

structure Machine.Invalid where
  key : String
  defect : Machine.Defect
  deriving DecidableEq, Repr

def Machine.Invalid.message (e : Machine.Invalid) : String :=
  "Invalid machine '" ++ e.key ++ "': " ++ e.defect.reason

namespace Machine

def add (m : Machine) : Clause → Machine
  | .global event target => { m with globals := m.globals.push event { target } }
  | .state name clauses => { m with states := m.states.insert name (.ofClauses clauses) }

/-- First defect of an edge: its target, then the state that its guard names. -/
def edgeDefect? (m : Machine) (source event : String) (edge : Edge) : Option Defect :=
  if !m.contains edge.target then some (.targetUndefined source event edge.target)
  else match edge.guard with
    | .visited state => if m.contains state then none else some (.guardUndefined source event state)
    | _ => none

def tableDefect? (m : Machine) (source : String) (table : Table (List Edge)) : Option Defect :=
  table.entries.findSome? fun (event, edges) =>
    if event.isEmpty then some (.unnamedEvent source)
    else edges.findSome? (m.edgeDefect? source event)

def ignoredDefect? (m : Machine) (state : String) (node : Node) : Option Defect :=
  (node.ignored.names.find? fun event => !m.globals.contains event).map (.ignoredNotGlobal state)

/-- The first defect, in the order: key, initial state, edges of the states,
machine-wide edges, ignored events. Names go in order within each. -/
def defect? (m : Machine) : Option Defect :=
  if m.key.isEmpty then some .emptyKey
  else if !m.contains m.initial then some (.initialUndefined m.initial)
  else
    (m.states.entries.findSome? fun (name, node) => m.tableDefect? name node.edges)
      |>.or (m.tableDefect? "<global>" m.globals)
      |>.or (m.states.entries.findSome? fun (name, node) => m.ignoredDefect? name node)

/-- The defect, together with the machine's key. -/
def invalid? (m : Machine) : Option Invalid := m.defect?.map (⟨m.key, ·⟩)

end Machine

structure Blueprint where
  key : String
  initial : String
  clauses : List Machine.Clause
  deriving DecidableEq, Repr

namespace Blueprint

/-- The machine as described, defects and all. -/
def machine (b : Blueprint) : Machine :=
  b.clauses.foldl Machine.add { key := b.key, initial := b.initial }

def build (b : Blueprint) : Except Machine.Invalid Machine :=
  match b.machine.invalid? with
  | some invalid => .error invalid
  | none => .ok b.machine

end Blueprint

end GuidedTour
