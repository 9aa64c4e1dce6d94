import GuidedTour.Machine.Blueprint
import GuidedTour.Proofs.Machine.Transition

/-! What acceptance gives. An accepted machine has no defect, so its initial state is described
and every edge leads to a state that is. Hence an event is handled exactly if an edge is open
that it may take, and no run of events leads out of the machine. -/
namespace GuidedTour

namespace Machine

variable {m : Machine} {state event source : String} {edge : Edge} {table : Table (List Edge)}

theorem edgeDefect?_eq_none_iff : m.edgeDefect? source event edge = none ↔
    m.contains edge.target = true ∧
      ∀ visited, edge.guard = .visited visited → m.contains visited = true := by
  unfold edgeDefect?
  cases known : m.contains edge.target with
  | false => simp
  | true =>
    cases edge.guard with
    | visited visited => cases there : m.contains visited <;> simp [there]
    | _ => simp

theorem tableDefect?_eq_none_iff : m.tableDefect? source table = none ↔
    ∀ entry ∈ table.entries, entry.1 ≠ "" ∧
      ∀ edge ∈ entry.2, m.edgeDefect? source entry.1 edge = none := by
  unfold tableDefect?
  rw [List.findSome?_eq_none_iff]
  refine forall₂_congr fun entry _ => ?_
  by_cases named : entry.1 = "" <;> simp [named]

/-- All that is asked of a machine, clause by clause. -/
theorem defect?_eq_none_iff : m.defect? = none ↔ m.key ≠ "" ∧ m.contains m.initial = true ∧
    (∀ entry ∈ m.states.entries, m.tableDefect? entry.1 entry.2.edges = none) ∧
    m.tableDefect? "<global>" m.globals = none ∧
    ∀ entry ∈ m.states.entries, m.ignoredDefect? entry.1 entry.2 = none := by
  unfold defect?
  by_cases key : m.key = ""
  · simp [key]
  · cases known : m.contains m.initial <;> simp [key, List.findSome?_eq_none_iff, and_assoc]

/-- The event may take the edge out of the state: it is one of the state's own, or one of the
whole machine that the state does not keep away. -/
inductive Offers (m : Machine) (state event : String) (edge : Edge) : Prop where
  | own {node edges} : m.states.find? state = some node → node.edges.find? event = some edges →
      edge ∈ edges → Offers m state event edge
  | global {node edges} : m.states.find? state = some node → node.absorbing = false →
      node.ignored.contains event = false → m.globals.find? event = some edges →
      edge ∈ edges → Offers m state event edge

theorem offers_iff {node : Node} (hn : m.states.find? state = some node) :
    m.Offers state event edge ↔ edge ∈ m.edgesFrom node event := by
  unfold edgesFrom
  rw [List.mem_append]
  constructor
  · intro h
    cases h with
    | own hn' he mem =>
      obtain rfl := Option.some.inj (hn.symm.trans hn')
      left
      rw [he]
      exact mem
    | global hn' absorbs ignores he mem =>
      obtain rfl := Option.some.inj (hn.symm.trans hn')
      right
      simp only [absorbs, ignores, Bool.or_self, Bool.false_eq_true, if_false, he]
      exact mem
  · rintro (own | global)
    · cases he : node.edges.find? event with
      | none => simp [he] at own
      | some edges => exact .own hn he (by simpa [he] using own)
    · by_cases kept : (node.absorbing || node.ignored.contains event) = true
      · simp [kept] at global
      · rw [if_neg kept] at global
        rw [Bool.not_eq_true, Bool.or_eq_false_iff] at kept
        cases he : m.globals.find? event with
        | none => simp [he] at global
        | some edges => exact .global hn kept.1 kept.2 he (by simpa [he] using global)

/-- The initial state is in the machine, and no edge leads out of it. -/
structure Closed (m : Machine) : Prop where
  initial : m.contains m.initial = true
  target : ∀ {state event edge}, m.Offers state event edge → m.contains edge.target = true

theorem closed_of_defect? (h : m.defect? = none) : m.Closed := by
  obtain ⟨-, initial, own, global, -⟩ := defect?_eq_none_iff.1 h
  refine ⟨initial, fun {state event edge} offered => ?_⟩
  have known {source : String} {table : Table (List Edge)} {edges : List Edge}
      (none : m.tableDefect? source table = none) (he : table.find? event = some edges)
      (mem : edge ∈ edges) : m.contains edge.target = true := by
    have entry := (tableDefect?_eq_none_iff.1 none) _ (Table.mem_entries_of_find? he)
    exact (edgeDefect?_eq_none_iff.1 (entry.2 edge mem)).1
  cases offered with
  | own hn he mem => exact known (own _ (Table.mem_entries_of_find? hn)) he mem
  | global _ _ _ he mem => exact known global he mem

variable {ctx : Context}

/-- An event is handled exactly if an edge is open that it may take. -/
theorem handled_iff (closed : m.Closed) : (m.transition state event ctx).handled = true ↔
    ∃ edge, m.Offers state event edge ∧ edge.guard.holds ctx = true := by
  obtain stays | ⟨node, edge, target, hn, first, ht, taken⟩ :=
    m.transition_cases state event ctx
  · rw [stays]
    refine iff_of_false Bool.false_ne_true ?_
    rintro ⟨edge, offered, holds⟩
    obtain ⟨node, hn⟩ : ∃ node, m.states.find? state = some node := by
      cases offered with
      | own hn => exact ⟨_, hn⟩
      | global hn => exact ⟨_, hn⟩
    have mem := (offers_iff hn).1 offered
    -- The edge tried first leads to a known state, so it would have been taken.
    cases first : (m.edgesFrom node event).find? (·.guard.holds ctx) with
    | none => exact absurd holds (List.find?_eq_none.1 first edge mem)
    | some taken =>
      have known := closed.target ((offers_iff hn).2 (List.mem_of_find?_eq_some first))
      obtain ⟨target, ht⟩ := Option.isSome_iff_exists.1 known
      simp [transition, hn, first, ht, Outcome.unhandled] at stays
  · rw [taken]
    refine iff_of_true rfl ⟨edge, (offers_iff hn).2 (List.mem_of_find?_eq_some first), ?_⟩
    simpa using List.find?_some first

/-- The state after some events, each with what the guards may read then. -/
def walk (m : Machine) (state : String) (inputs : List (String × Context)) : String :=
  inputs.foldl (fun state input => (m.transition state input.1 input.2).state) state

theorem contains_walk (h : m.contains state = true) (inputs : List (String × Context)) :
    m.contains (m.walk state inputs) = true := by
  induction inputs generalizing state with
  | nil => exact h
  | cons input inputs ih => exact ih (contains_transition h)

end Machine

namespace Blueprint

variable {b : Blueprint} {m : Machine}

theorem build_eq_ok_iff : b.build = .ok m ↔ b.machine.defect? = none ∧ b.machine = m := by
  unfold build Machine.invalid?
  cases b.machine.defect? <;> simp

theorem closed_of_build (h : b.build = .ok m) : m.Closed := by
  obtain ⟨accepted, rfl⟩ := build_eq_ok_iff.1 h
  exact Machine.closed_of_defect? accepted

end Blueprint

end GuidedTour
