import Mathlib.Data.Prod.Lex
import GuidedTour.Proofs.Machine.Listing
import GuidedTour.Proofs.Text.Bytes

/-! The faults of a machine. It may have many at once, and they have an order: by what is looked
at, the names of the state and of the event, and the place among the edges for the event. The
defect that is found is the first of them. -/
namespace GuidedTour

namespace Machine

/-- What is checked of an edge, in this order. -/
inductive Check where
  | event | target | guard

/-- Where a rule may be broken. -/
inductive Place where
  | key
  | initial
  /-- An edge for an event, of a state or (`none`) of the whole machine. -/
  | edge (source : Option String) (event : String) (index : ℕ) (check : Check)
  | ignored (state event : String)

namespace Place

/-- Names go by their bytes, and the edges for an event as they are written. -/
def rankOf (stage : ℕ) (state event : String) (index check : ℕ) :
    ℕ ×ₗ List ℕ ×ₗ List ℕ ×ₗ ℕ ×ₗ ℕ :=
  toLex (stage, toLex (Text.bytes state, toLex (Text.bytes event, toLex (index, check))))

/-- The order of places: the key, the initial state, the edges of the states, those of the whole
machine, the ignored events. -/
def rank : Place → ℕ ×ₗ List ℕ ×ₗ List ℕ ×ₗ ℕ ×ₗ ℕ
  | key => rankOf 0 "" "" 0 0
  | initial => rankOf 1 "" "" 0 0
  | edge (some state) event index check => rankOf 2 state event index check.ctorIdx
  | edge none event index check => rankOf 3 "" event index check.ctorIdx
  | ignored state event => rankOf 4 state event 0 0

theorem rankOf_lt_iff {stage stage' index index' check check' : ℕ}
    {state state' event event' : String} :
    rankOf stage state event index check < rankOf stage' state' event' index' check' ↔
      stage < stage' ∨ stage = stage' ∧ (state < state' ∨ state = state' ∧
        (event < event' ∨ event = event' ∧ (index < index' ∨ index = index' ∧ check < check'))) := by
  simp only [rankOf, Prod.Lex.toLex_lt_toLex, Text.bytes_lt_iff, Text.bytes_inj]

/-- What is looked at first, second and so on. -/
def stage : Place → ℕ
  | key => 0
  | initial => 1
  | edge (some _) .. => 2
  | edge none .. => 3
  | ignored .. => 4

theorem rank_lt_of_stage {place place' : Place} (h : place.stage < place'.stage) :
    place.rank < place'.rank := by
  have rank (p : Place) : ∃ state event index check,
      p.rank = rankOf p.stage state event index check := by
    cases p with
    | edge source => cases source <;> exact ⟨_, _, _, _, rfl⟩
    | _ => exact ⟨_, _, _, _, rfl⟩
  obtain ⟨_, _, _, _, left⟩ := rank place
  obtain ⟨_, _, _, _, right⟩ := rank place'
  rw [left, right, rankOf_lt_iff]
  exact .inl h

theorem rank_edge_lt_iff {source : Option String} {event event' : String} {index index' : ℕ}
    {check check' : Check} :
    (edge source event index check).rank < (edge source event' index' check').rank ↔
      event < event' ∨ event = event' ∧
        (index < index' ∨ index = index' ∧ check.ctorIdx < check'.ctorIdx) := by
  cases source <;> simp [rank, rankOf_lt_iff]

end Place

/-- How the source of an edge is called in a defect. -/
def sourceName (source : Option String) : String := source.getD "<global>"

/-- A defect and where it is. -/
abbrev Fault := Place × Defect

def edgeFaults (m : Machine) (source : Option String) (event : String) (index : ℕ) (edge : Edge) :
    List Fault :=
  (if m.contains edge.target then []
    else [(.edge source event index .target,
      .targetUndefined (sourceName source) event edge.target)]) ++
  match edge.guard with
  | .visited state => if m.contains state then []
    else [(.edge source event index .guard, .guardUndefined (sourceName source) event state)]
  | _ => []

def eventFaults (m : Machine) (source : Option String) (event : String) (edges : List Edge) :
    List Fault :=
  (if event = "" then [(.edge source event 0 .event, .unnamedEvent (sourceName source))] else []) ++
  edges.zipIdx.flatMap fun (edge, index) => m.edgeFaults source event index edge

def tableFaults (m : Machine) (source : Option String) (table : Table (List Edge)) : List Fault :=
  table.entries.flatMap fun (event, edges) => m.eventFaults source event edges

def ignoredFaults (m : Machine) (state : String) (node : Node) : List Fault :=
  (node.ignored.names.filter fun event => !m.globals.contains event).map fun event =>
    (.ignored state event, .ignoredNotGlobal state event)

/-- All that is wrong with a machine, in the order in which it is looked at. -/
def faults (m : Machine) : List Fault :=
  (if m.key = "" then [(.key, .emptyKey)] else []) ++
  (if m.contains m.initial then [] else [(.initial, .initialUndefined m.initial)]) ++
  (m.states.entries.flatMap fun (name, node) => m.tableFaults (some name) node.edges) ++
  m.tableFaults none m.globals ++
  m.states.entries.flatMap fun (name, node) => m.ignoredFaults name node

variable {m : Machine} {source : Option String} {event : String} {index : ℕ} {edge : Edge}
  {table : Table (List Edge)}

theorem edgeDefect?_eq : m.edgeDefect? (sourceName source) event edge =
    (m.edgeFaults source event index edge).head?.map (·.2) := by
  unfold edgeDefect? edgeFaults
  cases m.contains edge.target with
  | false => rfl
  | true =>
    cases edge.guard with
    | visited state => cases known : m.contains state <;> simp [known]
    | _ => rfl

theorem tableDefect?_eq (m : Machine) (source : Option String) (table : Table (List Edge)) :
    m.tableDefect? (sourceName source) table = (m.tableFaults source table).head?.map (·.2) := by
  unfold tableDefect? tableFaults eventFaults
  rw [List.head?_flatMap, List.map_findSome?]
  refine congrArg (List.findSome? · _) (funext fun (event, edges) => ?_)
  by_cases unnamed : event = ""
  · simp [unnamed]
  · have looked : edges.findSome? (m.edgeDefect? (sourceName source) event) =
        edges.zipIdx.findSome? fun (edge, index) =>
          (m.edgeFaults source event index edge).head?.map (·.2) := by
      conv_lhs => rw [← List.zipIdx_map_fst 0 edges, List.findSome?_map]
      exact congrArg (List.findSome? · _) (funext fun _ => edgeDefect?_eq)
    simp [unnamed, looked, List.head?_flatMap, List.map_findSome?, Function.comp_def]

/-- The first of all faults is the one that is found. -/
theorem defect?_eq_head? (m : Machine) : m.defect? = m.faults.head?.map (·.2) := by
  have own : (m.states.entries.findSome? fun (name, node) => m.tableDefect? name node.edges) =
      (m.states.entries.flatMap fun (name, node) =>
        m.tableFaults (some name) node.edges).head?.map (·.2) := by
    rw [List.head?_flatMap, List.map_findSome?]
    exact congrArg (List.findSome? · _) (funext fun (name, node) =>
      m.tableDefect?_eq (some name) node.edges)
  have ignored : (m.states.entries.findSome? fun (name, node) => m.ignoredDefect? name node) =
      (m.states.entries.flatMap fun (name, node) => m.ignoredFaults name node).head?.map (·.2) := by
    rw [List.head?_flatMap, List.map_findSome?]
    refine congrArg (List.findSome? · _) (funext fun (name, node) => ?_)
    simp [ignoredDefect?, ignoredFaults, Function.comp_def]
  have global : m.tableDefect? "<global>" m.globals =
      (m.tableFaults none m.globals).head?.map (·.2) := m.tableDefect?_eq none m.globals
  unfold defect? faults
  rw [own, ignored, global]
  by_cases key : m.key = ""
  · simp [key]
  · cases m.contains m.initial <;> simp [key, Option.map_or, Option.or_assoc]

/-- Every fault is found before those that follow. -/
def InOrder (faults : List Fault) : Prop := faults.Pairwise fun f g => f.1.rank < g.1.rank

theorem place_of_mem_edgeFaults {fault : Fault} (h : fault ∈ m.edgeFaults source event index edge) :
    ∃ check, fault.1 = .edge source event index check ∧ Check.event.ctorIdx < check.ctorIdx := by
  obtain target | guard := List.mem_append.1 h
  · split_ifs at target
    · cases target
    · rw [List.mem_singleton.1 target]
      exact ⟨.target, rfl, by decide⟩
  · split at guard
    · split_ifs at guard
      · cases guard
      · rw [List.mem_singleton.1 guard]
        exact ⟨.guard, rfl, by decide⟩
    · cases guard

theorem inOrder_edgeFaults (m : Machine) (source : Option String) (event : String) (index : ℕ)
    (edge : Edge) : InOrder (m.edgeFaults source event index edge) := by
  have targetFirst : (Place.edge source event index .target).rank <
      (Place.edge source event index .guard).rank :=
    Place.rank_edge_lt_iff.2 (.inr ⟨rfl, .inr ⟨rfl, by decide⟩⟩)
  unfold InOrder edgeFaults
  cases m.contains edge.target <;> cases edge.guard <;> simp <;> split_ifs <;> simp [targetFirst]

theorem place_of_mem_eventFaults {fault : Fault} {edges : List Edge}
    (h : fault ∈ m.eventFaults source event edges) :
    ∃ index check, fault.1 = .edge source event index check := by
  obtain unnamed | looked := List.mem_append.1 h
  · split_ifs at unnamed
    · rw [List.mem_singleton.1 unnamed]
      exact ⟨_, _, rfl⟩
    · cases unnamed
  · obtain ⟨⟨edge, index⟩, -, mem⟩ := List.mem_flatMap.1 looked
    obtain ⟨check, place, -⟩ := place_of_mem_edgeFaults mem
    exact ⟨_, _, place⟩

theorem inOrder_eventFaults (m : Machine) (source : Option String) (event : String)
    (edges : List Edge) : InOrder (m.eventFaults source event edges) := by
  have indices : edges.zipIdx.Pairwise fun left right => left.2 < right.2 := by
    have sorted := List.pairwise_lt_range' (s := 0) (n := edges.length)
    rw [← List.zipIdx_map_snd, List.pairwise_map] at sorted
    exact sorted
  unfold InOrder eventFaults
  rw [List.pairwise_append, List.pairwise_flatMap]
  refine ⟨?_, ⟨fun (edge, index) _ => m.inOrder_edgeFaults source event index edge, ?_⟩, ?_⟩
  · split_ifs
    · exact List.pairwise_singleton _ _
    · exact List.Pairwise.nil
  · refine indices.imp fun less f memF g memG => ?_
    obtain ⟨check, left, -⟩ := place_of_mem_edgeFaults memF
    obtain ⟨check', right, -⟩ := place_of_mem_edgeFaults memG
    rw [left, right, Place.rank_edge_lt_iff]
    exact .inr ⟨rfl, .inl less⟩
  · -- A name that is missing comes before the edges.
    intro f unnamed g looked
    obtain ⟨⟨edge, index⟩, -, mem⟩ := List.mem_flatMap.1 looked
    obtain ⟨check, right, later⟩ := place_of_mem_edgeFaults mem
    split_ifs at unnamed
    · rw [List.mem_singleton.1 unnamed, right, Place.rank_edge_lt_iff]
      refine .inr ⟨rfl, ?_⟩
      obtain zero | positive := Nat.eq_zero_or_pos index
      · exact .inr ⟨zero.symm, later⟩
      · exact .inl positive
    · cases unnamed

theorem place_of_mem_tableFaults {fault : Fault} (h : fault ∈ m.tableFaults source table) :
    ∃ event index check, fault.1 = .edge source event index check := by
  obtain ⟨⟨event, edges⟩, -, mem⟩ := List.mem_flatMap.1 h
  exact ⟨event, place_of_mem_eventFaults mem⟩

theorem inOrder_tableFaults (m : Machine) (source : Option String) (sorted : table.Sorted) :
    InOrder (m.tableFaults source table) := by
  unfold InOrder tableFaults
  rw [List.pairwise_flatMap]
  refine ⟨fun (event, edges) _ => m.inOrder_eventFaults source event edges, ?_⟩
  refine sorted.imp fun less f memF g memG => ?_
  obtain ⟨_, _, left⟩ := place_of_mem_eventFaults memF
  obtain ⟨_, _, right⟩ := place_of_mem_eventFaults memG
  rw [left, right, Place.rank_edge_lt_iff]
  exact .inl less

/-- Faults in order, up to a stage. -/
structure Upto (last : ℕ) (faults : List Fault) : Prop where
  inOrder : InOrder faults
  stage : ∀ fault ∈ faults, fault.1.stage ≤ last

theorem Upto.append {last : ℕ} {before after : List Fault} (h : Upto last before)
    (inOrder : InOrder after) (stage : ∀ fault ∈ after, fault.1.stage = last + 1) :
    Upto (last + 1) (before ++ after) := by
  refine ⟨List.pairwise_append.2 ⟨h.inOrder, inOrder, fun f memF g memG => ?_⟩, fun f mem => ?_⟩
  · refine Place.rank_lt_of_stage ?_
    rw [stage g memG]
    exact Nat.lt_succ_of_le (h.stage f memF)
  · obtain earlier | now := List.mem_append.1 mem
    · exact (h.stage f earlier).trans last.le_succ
    · exact (stage f now).le

theorem inOrder_own (states : m.states.Sorted)
    (listed : ∀ entry ∈ m.states.entries, entry.2.Listed) :
    InOrder (m.states.entries.flatMap fun (name, node) => m.tableFaults (some name) node.edges) := by
  unfold InOrder
  rw [List.pairwise_flatMap]
  refine ⟨fun (name, node) mem => m.inOrder_tableFaults _ (listed _ mem).edges.sorted, ?_⟩
  refine states.imp fun less f memF g memG => ?_
  obtain ⟨_, _, _, left⟩ := place_of_mem_tableFaults memF
  obtain ⟨_, _, _, right⟩ := place_of_mem_tableFaults memG
  rw [left, right]
  exact Place.rankOf_lt_iff.2 (.inr ⟨rfl, .inl less⟩)

theorem place_of_mem_ignoredFaults {state : String} {node : Node} {fault : Fault}
    (h : fault ∈ m.ignoredFaults state node) : ∃ event, fault.1 = .ignored state event := by
  obtain ⟨event, -, rfl⟩ := List.mem_map.1 h
  exact ⟨event, rfl⟩

theorem inOrder_ignored (states : m.states.Sorted)
    (listed : ∀ entry ∈ m.states.entries, entry.2.Listed) :
    InOrder (m.states.entries.flatMap fun (name, node) => m.ignoredFaults name node) := by
  unfold InOrder
  rw [List.pairwise_flatMap]
  refine ⟨fun (name, node) mem => ?_, ?_⟩
  · have names : node.ignored.names.Pairwise (· < ·) :=
      List.pairwise_map.2 (listed _ mem).ignored
    refine List.pairwise_map.2 ((names.filter _).imp fun less => ?_)
    exact Place.rankOf_lt_iff.2 (.inr ⟨rfl, .inr ⟨rfl, .inl less⟩⟩)
  · refine states.imp fun less f memF g memG => ?_
    obtain ⟨_, left⟩ := place_of_mem_ignoredFaults memF
    obtain ⟨_, right⟩ := place_of_mem_ignoredFaults memG
    rw [left, right]
    exact Place.rankOf_lt_iff.2 (.inr ⟨rfl, .inl less⟩)

theorem inOrder_faults (states : m.states.Sorted)
    (listed : ∀ entry ∈ m.states.entries, entry.2.Listed) (globals : m.globals.Sorted) :
    InOrder m.faults := by
  have key : Upto 0 (if m.key = "" then [(.key, .emptyKey)] else []) := by
    split_ifs
    · exact ⟨List.pairwise_singleton _ _, by simp [Place.stage]⟩
    · exact ⟨List.Pairwise.nil, by simp⟩
  refine ((((key.append ?_ ?_).append (inOrder_own states listed) fun f mem => ?_).append
    (m.inOrder_tableFaults none globals) fun f mem => ?_).append
    (inOrder_ignored states listed) fun f mem => ?_).inOrder
  · split_ifs
    · exact List.Pairwise.nil
    · exact List.pairwise_singleton _ _
  · split_ifs <;> simp [Place.stage]
  · obtain ⟨⟨name, node⟩, -, own⟩ := List.mem_flatMap.1 mem
    obtain ⟨_, _, _, place⟩ := place_of_mem_tableFaults own
    rw [place]
    rfl
  · obtain ⟨_, _, _, place⟩ := place_of_mem_tableFaults mem
    rw [place]
    rfl
  · obtain ⟨⟨name, node⟩, -, ignored⟩ := List.mem_flatMap.1 mem
    obtain ⟨_, place⟩ := place_of_mem_ignoredFaults ignored
    rw [place]
    rfl

/-- Of faults in order the first is the one before all others. -/
theorem InOrder.head?_eq_some_iff {faults : List Fault} (h : InOrder faults) {fault : Fault} :
    faults.head? = some fault ↔
      fault ∈ faults ∧ ∀ other ∈ faults, fault.1.rank ≤ other.1.rank := by
  cases faults with
  | nil => simp
  | cons first rest =>
    obtain ⟨before, -⟩ := List.pairwise_cons.1 h
    rw [List.head?_cons, Option.some.injEq]
    constructor
    · rintro rfl
      refine ⟨List.mem_cons_self, fun other mem => ?_⟩
      obtain rfl | later := List.mem_cons.1 mem
      · exact le_rfl
      · exact (before other later).le
    · rintro ⟨mem, least⟩
      obtain rfl | later := List.mem_cons.1 mem
      · rfl
      · exact absurd (before fault later) (least first List.mem_cons_self).not_gt

end Machine

end GuidedTour
