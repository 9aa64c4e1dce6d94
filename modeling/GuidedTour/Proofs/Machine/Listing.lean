import Mathlib.Data.List.Sort
import Mathlib.Data.String.Basic
import GuidedTour.Proofs.Machine.Clauses

/-! How the tables of a machine are listed. However its clauses are written down, states, events
and ignored events stand in the order of their names, each name once, and an event is listed with
at least one edge. So a listing says no more than the lookups do. -/
namespace GuidedTour

namespace Table

variable {α : Type u} {t t' : Table α} {name : String} {value : α}

/-- Every name stands before all that follow. -/
def Sorted (t : Table α) : Prop := t.entries.Pairwise fun left right => left.1 < right.1

theorem mem_insertEntry {es : List (String × α)} {entry : String × α}
    (h : entry ∈ insertEntry name value es) : entry = (name, value) ∨ entry ∈ es := by
  induction es with
  | nil => exact .inl (List.mem_singleton.1 h)
  | cons first rest ih =>
    unfold insertEntry at h
    split_ifs at h
    · exact (List.mem_cons.1 h).imp_right (List.mem_cons_of_mem _)
    · exact List.mem_cons.1 h
    · obtain same | later := List.mem_cons.1 h
      · exact .inr (List.mem_cons.2 (.inl same))
      · exact (ih later).imp_right (List.mem_cons_of_mem _)

theorem sorted_insertEntry {es : List (String × α)}
    (h : es.Pairwise fun left right => left.1 < right.1) :
    (insertEntry name value es).Pairwise fun left right => left.1 < right.1 := by
  induction es with
  | nil => exact List.pairwise_singleton _ _
  | cons first rest ih =>
    obtain ⟨before, sorted⟩ := List.pairwise_cons.1 h
    unfold insertEntry
    split_ifs with same less
    · subst same
      exact List.pairwise_cons.2 ⟨before, sorted⟩
    · refine List.pairwise_cons.2 ⟨fun entry mem => ?_, h⟩
      obtain rfl | later := List.mem_cons.1 mem
      · exact less
      · exact less.trans (before entry later)
    · refine List.pairwise_cons.2 ⟨fun entry mem => ?_, ih sorted⟩
      obtain rfl | later := mem_insertEntry mem
      · exact lt_of_le_of_ne (not_lt.1 less) same
      · exact before entry later

theorem Sorted.insert (h : t.Sorted) (name : String) (value : α) : (t.insert name value).Sorted :=
  sorted_insertEntry h

theorem findEntry_of_mem {es : List (String × α)}
    (h : es.Pairwise fun left right => left.1 < right.1) (mem : (name, value) ∈ es) :
    findEntry name es = some value := by
  induction es with
  | nil => cases mem
  | cons first rest ih =>
    obtain ⟨before, sorted⟩ := List.pairwise_cons.1 h
    unfold findEntry
    obtain rfl | later := List.mem_cons.1 mem
    · exact if_pos rfl
    · rw [if_neg (before _ later).ne, ih sorted later]

/-- What is listed is what is found. -/
theorem Sorted.mem_entries_iff (h : t.Sorted) :
    (name, value) ∈ t.entries ↔ t.find? name = some value :=
  ⟨findEntry_of_mem h, mem_entries_of_find?⟩

theorem Sorted.eq_of_find? (h : t.Sorted) (h' : t'.Sorted)
    (same : ∀ name, t.find? name = t'.find? name) : t = t' := by
  have antisymm : Std.Antisymm fun left right : String × α => left.1 < right.1 :=
    ⟨fun _ _ less more => absurd more less.asymm⟩
  have irrefl : Std.Irrefl fun left right : String × α => left.1 < right.1 :=
    ⟨fun _ => lt_irrefl _⟩
  have entries : t.entries = t'.entries := by
    refine List.Pairwise.eq_of_mem_iff h h' fun ⟨name, value⟩ => ?_
    rw [h.mem_entries_iff, h'.mem_entries_iff, same]
  exact congrArg Table.mk entries

/-- A table of lists in which every name has something listed under it. -/
structure Filled (t : Table (List α)) : Prop where
  sorted : t.Sorted
  some : ∀ name, t.find? name ≠ some []

theorem filled_empty : (empty : Table (List α)).Filled := ⟨List.Pairwise.nil, by simp⟩

theorem Filled.push {t : Table (List α)} (h : t.Filled) (name : String) (value : α) :
    (t.push name value).Filled := by
  refine ⟨h.sorted.insert _ _, fun query => ?_⟩
  rw [find?_push]
  split_ifs
  · simp
  · exact h.some query

theorem Filled.mem_entries_iff {t : Table (List α)} (h : t.Filled) {values : List α} :
    (name, values) ∈ t.entries ↔ (t.find? name).getD [] = values ∧ values ≠ [] := by
  have some := h.some name
  rw [h.sorted.mem_entries_iff]
  cases found : t.find? name with
  | none => simp [eq_comm]
  | some kept =>
    rw [found] at some
    rw [Option.getD_some, Option.some.injEq]
    refine ⟨?_, And.left⟩
    rintro rfl
    exact ⟨rfl, fun nothing => some (congrArg _ nothing)⟩

theorem Filled.eq_of_getD {t t' : Table (List α)} (h : t.Filled) (h' : t'.Filled)
    (same : ∀ name, (t.find? name).getD [] = (t'.find? name).getD []) : t = t' := by
  refine h.sorted.eq_of_find? h'.sorted fun name => Option.ext fun values => ?_
  rw [← h.sorted.mem_entries_iff, ← h'.sorted.mem_entries_iff, h.mem_entries_iff,
    h'.mem_entries_iff, same]

end Table

/-- A node whose events and ignored events are listed in order. -/
structure Node.Listed (node : Node) : Prop where
  edges : node.edges.Filled
  ignored : node.ignored.Sorted

theorem Node.Listed.add {node : Node} (h : node.Listed) (clause : Clause) :
    (node.add clause).Listed := by
  cases clause with
  | edge event edge => exact ⟨h.edges.push event edge, h.ignored⟩
  | ignore event => exact ⟨h.edges, h.ignored.insert event ()⟩
  | _ => exact ⟨h.edges, h.ignored⟩

theorem Node.listed_ofClauses (clauses : List Clause) : (ofClauses clauses).Listed :=
  List.foldlRecOn clauses add ⟨Table.filled_empty, List.Pairwise.nil⟩
    fun _ listed clause _ => listed.add clause

namespace Blueprint

variable {b : Blueprint} {m : Machine}

/-- A machine with the key and the initial state of the blueprint, and its tables in order. -/
structure Lists (b : Blueprint) (m : Machine) : Prop where
  key : m.key = b.key
  initial : m.initial = b.initial
  states : m.states.Sorted
  globals : m.globals.Filled

theorem Lists.add (h : b.Lists m) (clause : Machine.Clause) : b.Lists (m.add clause) := by
  cases clause with
  | global event target => exact ⟨h.key, h.initial, h.states, h.globals.push event _⟩
  | state name clauses => exact ⟨h.key, h.initial, h.states.insert name _, h.globals⟩

theorem lists_machine (b : Blueprint) : b.Lists b.machine :=
  List.foldlRecOn b.clauses Machine.add ⟨rfl, rfl, List.Pairwise.nil, Table.filled_empty⟩
    fun _ lists clause _ => lists.add clause

/-- A state is listed as it was described last. -/
theorem mem_states_iff (b : Blueprint) {state : String} {node : Node} :
    (state, node) ∈ b.machine.states.entries ↔
      ∃ clauses, b.about? state = some clauses ∧ .ofClauses clauses = node := by
  rw [b.lists_machine.states.mem_entries_iff, find?_machine, Option.map_eq_some_iff]

end Blueprint

end GuidedTour
