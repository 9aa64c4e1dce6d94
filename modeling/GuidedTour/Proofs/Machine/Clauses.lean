import Mathlib.Data.List.Induction
import GuidedTour.Proofs.Machine.Acceptance

/-! A machine does what its blueprint says. The clauses of a blueprint stand in one list, and the
machine keeps them in tables by state and by event. Nothing that counts is lost on the way: the
edges for an event keep the order in which they are written, those of a state before those of
the whole machine, and of two descriptions of a state the later one stands. -/
namespace GuidedTour

namespace Node

namespace Clause

def edgeOn? (event : String) : Clause → Option Edge
  | .edge trigger way => if trigger = event then some way else none
  | _ => none

def entry? : Clause → Option Action
  | .entry action => some action
  | _ => none

def exit? : Clause → Option Action
  | .exit action => some action
  | _ => none

end Clause

/-- The node is what the clauses say of a state, each kind of clause in order. -/
structure Written (clauses : List Clause) (node : Node) : Prop where
  edges : ∀ event, (node.edges.find? event).getD [] = clauses.filterMap (·.edgeOn? event)
  entry : node.entry = clauses.filterMap Clause.entry?
  exit : node.exit = clauses.filterMap Clause.exit?
  ignored : ∀ event, node.ignored.contains event = true ↔ .ignore event ∈ clauses
  absorbing : node.absorbing = true ↔ .absorb ∈ clauses

variable {clauses : List Clause} {node : Node}

/-- One more clause adds to what it is about, and to nothing else. -/
theorem Written.add (h : Written clauses node) (clause : Clause) :
    Written (clauses ++ [clause]) (node.add clause) := by
  obtain ⟨edges, entry, exit, ignored, absorbing⟩ := h
  cases clause with
  | entry action =>
    constructor <;> simp [Node.add, edges, entry, exit, ignored, absorbing, Clause.edgeOn?,
      Clause.entry?, Clause.exit?]
  | exit action =>
    constructor <;> simp [Node.add, edges, entry, exit, ignored, absorbing, Clause.edgeOn?,
      Clause.entry?, Clause.exit?]
  | edge trigger edge =>
    refine ⟨fun event => ?_, ?_, ?_, ?_, ?_⟩
    · by_cases same : event = trigger
      · subst same
        simp [Node.add, Table.find?_push, edges, Clause.edgeOn?]
      · simp [Node.add, Table.find?_push, edges, Clause.edgeOn?, same, Ne.symm same]
    all_goals simp [Node.add, entry, exit, ignored, absorbing, Clause.entry?, Clause.exit?]
  | ignore event =>
    refine ⟨?_, ?_, ?_, fun other => ?_, ?_⟩
    case refine_4 =>
      have before := ignored other
      unfold Table.contains at before
      by_cases same : other = event <;> simp [Node.add, Table.contains, before, same]
    all_goals simp [Node.add, edges, entry, exit, absorbing, Clause.edgeOn?, Clause.entry?,
      Clause.exit?]
  | absorb =>
    constructor <;> simp [Node.add, edges, entry, exit, ignored, Clause.edgeOn?, Clause.entry?,
      Clause.exit?]

theorem written_ofClauses (clauses : List Clause) : Written clauses (.ofClauses clauses) := by
  induction clauses using List.reverseRecOn with
  | nil => constructor <;> simp [ofClauses, Table.contains, Table.find?_empty]
  | append_singleton clauses clause ih =>
    unfold ofClauses at ih ⊢
    rw [List.foldl_append, List.foldl_cons, List.foldl_nil]
    exact ih.add clause

end Node

namespace Machine.Clause

def edgeOn? (event : String) : Clause → Option Edge
  | .global trigger target => if trigger = event then some { target } else none
  | .state .. => none

def about? (name : String) : Clause → Option (List Node.Clause)
  | .global .. => none
  | .state described clauses => if described = name then some clauses else none

end Machine.Clause

namespace Blueprint

/-- What is written about a state, by the last clause that describes it. -/
def about? (b : Blueprint) (state : String) : Option (List Node.Clause) :=
  b.clauses.reverse.findSome? (·.about? state)

/-- The ways that an event may take from a state about which the clauses are written: first the
state's own, then those of the whole machine, unless the state absorbs or ignores the event. -/
def ways (b : Blueprint) (clauses : List Node.Clause) (event : String) : List Edge :=
  clauses.filterMap (·.edgeOn? event) ++
    if .absorb ∈ clauses ∨ .ignore event ∈ clauses then []
    else b.clauses.filterMap (·.edgeOn? event)

/-- What is written about an event: it takes the first way that is open, to a state about which
something is written, and otherwise it does nothing. -/
inductive Means (b : Blueprint) (state event : String) (ctx : Context) : Outcome → Prop where
  | takes {clauses before edge after target} : b.about? state = some clauses →
      b.ways clauses event = before ++ edge :: after →
      (∀ other ∈ before, other.guard.holds ctx = false) → edge.guard.holds ctx = true →
      b.about? edge.target = some target →
      Means b state event ctx ⟨edge.target, clauses.filterMap Node.Clause.exit? ++ edge.actions ++
        target.filterMap Node.Clause.entry?, true⟩
  | stays {clauses} : b.about? state = some clauses →
      (∀ edge ∈ b.ways clauses event, edge.guard.holds ctx = false) →
      Means b state event ctx ⟨state, [], false⟩
  | unknown : b.about? state = none → Means b state event ctx ⟨state, [], false⟩

/-- The tables of a machine are what some clauses say, of each state and of all. -/
theorem tables_foldl (m : Machine) (clauses : List Machine.Clause) :
    (∀ state, (clauses.foldl Machine.add m).states.find? state =
      ((clauses.reverse.findSome? (·.about? state)).map Node.ofClauses).or
        (m.states.find? state)) ∧
    ∀ event, ((clauses.foldl Machine.add m).globals.find? event).getD [] =
      (m.globals.find? event).getD [] ++ clauses.filterMap (·.edgeOn? event) := by
  induction clauses using List.reverseRecOn with
  | nil => simp
  | append_singleton clauses clause ih =>
    obtain ⟨states, globals⟩ := ih
    rw [List.foldl_append, List.foldl_cons, List.foldl_nil]
    cases clause with
    | global trigger target =>
      refine ⟨fun state => ?_, fun event => ?_⟩
      · simp [Machine.add, states, Machine.Clause.about?]
      · by_cases same : event = trigger
        · subst same
          simp [Machine.add, Table.find?_push, globals, Machine.Clause.edgeOn?]
        · simp [Machine.add, Table.find?_push, globals, Machine.Clause.edgeOn?, same,
            Ne.symm same]
    | state described about =>
      refine ⟨fun state => ?_, fun event => ?_⟩
      · by_cases same : state = described
        · simp [Machine.add, same, Machine.Clause.about?]
        · simp [Machine.add, states, same, Ne.symm same, Machine.Clause.about?]
      · simp [Machine.add, globals, Machine.Clause.edgeOn?]

variable {b : Blueprint} {m : Machine} {state event : String}

theorem find?_machine (b : Blueprint) (state : String) :
    b.machine.states.find? state = (b.about? state).map Node.ofClauses := by
  have states := (tables_foldl { key := b.key, initial := b.initial } b.clauses).1 state
  simpa [machine, about?] using states

theorem contains_machine (b : Blueprint) (state : String) :
    b.machine.contains state = (b.about? state).isSome := by
  simp [Machine.contains, Table.contains, find?_machine]

theorem edgesFrom_machine (b : Blueprint) (clauses : List Node.Clause) (event : String) :
    b.machine.edgesFrom (.ofClauses clauses) event = b.ways clauses event := by
  have globals := (tables_foldl { key := b.key, initial := b.initial } b.clauses).2 event
  obtain ⟨edges, -, -, ignored, absorbing⟩ := Node.written_ofClauses clauses
  have kept : ((Node.ofClauses clauses).absorbing ||
      (Node.ofClauses clauses).ignored.contains event) = true ↔
        .absorb ∈ clauses ∨ .ignore event ∈ clauses := by
    rw [Bool.or_eq_true, absorbing, ignored]
  unfold Machine.edgesFrom ways
  rw [edges]
  simp only [kept]
  split
  · rfl
  · simpa [machine] using globals

variable {ctx : Context} {outcome : Outcome} {clauses : List Node.Clause}

theorem transition_unknown (h : b.about? state = none) :
    b.machine.transition state event ctx = .unhandled state := by
  simp [Machine.transition, find?_machine, h]

/-- The transition of a described state, in the words of the blueprint. -/
theorem transition_described (h : b.about? state = some clauses) :
    b.machine.transition state event ctx =
      match (b.ways clauses event).find? (·.guard.holds ctx) with
      | none => .unhandled state
      | some edge =>
        match b.about? edge.target with
        | none => .unhandled state
        | some target => ⟨edge.target, clauses.filterMap Node.Clause.exit? ++ edge.actions ++
            target.filterMap Node.Clause.entry?, true⟩ := by
  have source := (Node.written_ofClauses clauses).exit
  unfold Machine.transition
  rw [find?_machine, h]
  simp only [Option.map_some, edgesFrom_machine]
  cases (b.ways clauses event).find? (·.guard.holds ctx) with
  | none => rfl
  | some edge =>
    simp only [find?_machine]
    cases b.about? edge.target with
    | none => rfl
    | some target => simp [source, (Node.written_ofClauses target).entry]

/-- Every way out of a described state leads to a described one. -/
theorem about?_target (closed : b.machine.Closed) (h : b.about? state = some clauses)
    {edge : Edge} (mem : edge ∈ b.ways clauses event) : (b.about? edge.target).isSome = true := by
  have hn : b.machine.states.find? state = some (.ofClauses clauses) := by
    rw [find?_machine, h]
    rfl
  rw [← edgesFrom_machine] at mem
  rw [← contains_machine]
  exact closed.target ((Machine.offers_iff hn).2 mem)

theorem means_transition (closed : b.machine.Closed) (state event : String) (ctx : Context) :
    b.Means state event ctx (b.machine.transition state event ctx) := by
  cases h : b.about? state with
  | none =>
    rw [transition_unknown h]
    exact .unknown h
  | some clauses =>
    rw [transition_described h]
    cases first : (b.ways clauses event).find? (·.guard.holds ctx) with
    | none =>
      refine .stays h fun edge mem => ?_
      simpa using List.find?_eq_none.1 first edge mem
    | some edge =>
      obtain ⟨holds, before, after, ways, closedBefore⟩ := List.find?_eq_some_iff_append.1 first
      have mem := List.mem_of_find?_eq_some first
      obtain ⟨target, leads⟩ := Option.isSome_iff_exists.1 (about?_target closed h mem)
      simp only [leads]
      exact .takes h ways (fun other mem => by simpa using closedBefore other mem) holds leads

theorem transition_of_means (h : b.Means state event ctx outcome) :
    b.machine.transition state event ctx = outcome := by
  cases h with
  | @takes clauses before edge after target hb ways closedBefore holds leads =>
    have first : (b.ways clauses event).find? (·.guard.holds ctx) = some edge := by
      rw [List.find?_eq_some_iff_append]
      exact ⟨holds, before, after, ways, fun other mem => by simp [closedBefore other mem]⟩
    simp only [transition_described hb, first, leads]
  | @stays clauses hb closedAll =>
    have first : (b.ways clauses event).find? (·.guard.holds ctx) = none := by
      rw [List.find?_eq_none]
      exact fun edge mem => by simp [closedAll edge mem]
    simp only [transition_described hb, first]
    rfl
  | unknown hb => exact transition_unknown hb

/-- An accepted blueprint means what is written. In every state an event does what is said of
it, and nothing else: the first way that is open is taken, the state's own before those of the
whole machine, with the actions in the order in which they are written. Every way leads to a
described state, so no way that is open is passed over, and no run leaves the machine. -/
theorem transition_iff_means (h : b.build = .ok m) :
    (∀ state event ctx outcome,
      m.transition state event ctx = outcome ↔ b.Means state event ctx outcome) ∧
    (∀ state clauses event, b.about? state = some clauses →
      ∀ edge ∈ b.ways clauses event, (b.about? edge.target).isSome = true) ∧
    ∀ inputs, (b.about? (m.walk m.initial inputs)).isSome = true := by
  have closed := closed_of_build h
  obtain ⟨-, rfl⟩ := build_eq_ok_iff.1 h
  refine ⟨fun state event ctx outcome => ⟨?_, transition_of_means⟩,
    fun state clauses event about edge mem => about?_target closed about mem, fun inputs => ?_⟩
  · rintro rfl
    exact means_transition closed state event ctx
  · rw [← contains_machine]
    exact Machine.contains_walk closed.initial inputs

/-- A door that is described twice while closed. An open one lets no knock through, and the vault
lets nothing through that is not its own. -/
def door : Blueprint where
  key := "door"
  initial := "closed"
  clauses := [
    .global "BELL" "closed",
    .state "closed" [.on "OPEN" "vault"],
    .state "closed" [.goTo "hallway", .exit (.clear .detail),
      .onWhen "OPEN" "vault" (.mountIn ["master"]), .onWhen "OPEN" "open" (.mountIn ["house"])],
    .state "open" [.mount .step "door-open", .onWhen "BELL" "vault" (.visited "vault"),
      .ignore "KNOCK"],
    .global "KNOCK" "closed",
    .global "OPEN" "closed",
    .state "vault" [.on "OPEN" "vault", .absorb]]

/-- What the door does: its own second way, the way of the whole machine after its own, the ways
that are kept from a state, and after many events a state that is described. -/
theorem transition_iff_means_door :
    door.build = .ok door.machine ∧
    door.Means "closed" "OPEN" { params := some { mountType := some "house" } }
      ⟨"open", [.clear .detail, .mount .step "door-open"], true⟩ ∧
    door.Means "open" "BELL" {} ⟨"closed", [.goTo "hallway"], true⟩ ∧
    door.Means "open" "KNOCK" {} ⟨"open", [], false⟩ ∧
    door.Means "vault" "BELL" {} ⟨"vault", [], false⟩ ∧
    ∀ inputs, (door.about? (door.machine.walk "closed" inputs)).isSome = true := by
  have built : door.build = .ok door.machine := build_eq_ok_iff.2 ⟨by decide +kernel, rfl⟩
  obtain ⟨means, -, inside⟩ := transition_iff_means built
  refine ⟨built, ?_, ?_, ?_, ?_, inside⟩
  all_goals
    refine (means _ _ _ _).1 ?_
    decide +kernel

end Blueprint

end GuidedTour
