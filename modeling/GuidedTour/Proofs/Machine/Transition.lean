import Mathlib.Data.List.Find
import GuidedTour.Machine.Basic

/-! What one event can do to a machine. Either nothing happens, or the event takes the
first open edge of the state itself or of the whole machine. Everything else that is
known about a machine's moves is read off the finite list of edges that leave a state. -/
namespace GuidedTour

namespace Table

variable {α : Type u}

theorem mem_of_findEntry {name : String} {value : α} {es : List (String × α)}
    (h : findEntry name es = some value) : (name, value) ∈ es := by
  induction es with
  | nil => cases h
  | cons e rest ih =>
    obtain ⟨n, v⟩ := e
    by_cases hn : n = name
    · rw [findEntry, if_pos hn] at h
      cases Option.some.inj h
      rw [hn]
      exact List.mem_cons_self
    · rw [findEntry, if_neg hn] at h
      exact List.mem_cons_of_mem _ (ih h)

theorem mem_entries_of_find? {t : Table α} {name : String} {value : α}
    (h : t.find? name = some value) : (name, value) ∈ t.entries :=
  mem_of_findEntry h

end Table

/-- What a guard asks of the history alone. -/
def Guard.admits (history : List String) : Guard → Bool
  | visited state => history.contains state
  | _ => true

theorem Guard.admits_of_holds {ctx : Context} {guard : Guard} (h : guard.holds ctx = true) :
    guard.admits ctx.history = true := by
  cases guard with
  | visited state => exact h
  | _ => rfl

theorem Guard.holds_mountIn_iff {ctx : Context} {types : List String} :
    (mountIn types).holds ctx = true ↔ ∃ type ∈ types, ctx.mountType = some type := by
  unfold holds
  cases ctx.mountType with
  | none => simp
  | some chosen => simp

theorem Guard.holds_mountNotIn_iff {ctx : Context} {types : List String} :
    (mountNotIn types).holds ctx = true ↔ ∀ type ∈ types, ctx.mountType ≠ some type := by
  unfold holds
  cases ctx.mountType with
  | none => simp
  | some chosen => simp [List.forall_mem_ne]

def Guard.looksBack : Guard → Bool
  | visited _ => true
  | _ => false

namespace Machine

variable {m : Machine} {state event : String} {ctx : Context}

def tableExits (table : Table (List Edge)) : List (String × Edge) :=
  table.entries.flatMap fun entry => entry.2.map (entry.1, ·)

def ownExits (m : Machine) (state : String) : List (String × Edge) :=
  match m.states.find? state with
  | some node => tableExits node.edges
  | none => []

def globalExits (m : Machine) (state : String) : List (String × Edge) :=
  match m.states.find? state with
  | some node => (tableExits m.globals).filter fun exit =>
      !(node.absorbing || node.ignored.contains exit.1)
  | none => []

/-- The edges that may leave a state, each with its event. -/
def exits (m : Machine) (state : String) : List (String × Edge) :=
  m.ownExits state ++ m.globalExits state

def Leads (m : Machine) (state target : String) : Prop :=
  ∃ exit ∈ m.ownExits state, exit.2.target = target

instance : DecidableRel m.Leads := fun state target =>
  inferInstanceAs (Decidable (∃ exit ∈ m.ownExits state, exit.2.target = target))

theorem mem_tableExits {table : Table (List Edge)} {edge : Edge}
    (h : edge ∈ (table.find? event).getD []) : (event, edge) ∈ tableExits table := by
  cases hf : table.find? event with
  | none =>
    rw [hf] at h
    cases h
  | some edges =>
    rw [hf, Option.getD_some] at h
    unfold tableExits
    rw [List.mem_flatMap]
    exact ⟨(event, edges), Table.mem_entries_of_find? hf, List.mem_map_of_mem h⟩

theorem mem_exits {node : Node} {edge : Edge} (hn : m.states.find? state = some node)
    (h : edge ∈ m.edgesFrom node event) : (event, edge) ∈ m.exits state := by
  simp only [edgesFrom, List.mem_append] at h
  simp only [exits, ownExits, globalExits, hn, List.mem_append, List.mem_filter]
  cases h with
  | inl own => exact .inl (mem_tableExits own)
  | inr global =>
    split at global
    · cases global
    · rename_i applies
      exact .inr ⟨mem_tableExits global, by simpa using applies⟩

/-- All that an event can do. -/
theorem transition_cases (m : Machine) (state event : String) (ctx : Context) :
    m.transition state event ctx = .unhandled state ∨
      ∃ node edge target, m.states.find? state = some node ∧
        (m.edgesFrom node event).find? (·.guard.holds ctx) = some edge ∧
        m.states.find? edge.target = some target ∧
        m.transition state event ctx =
          ⟨edge.target, node.exit ++ edge.actions ++ target.entry, true⟩ := by
  unfold transition
  cases hn : m.states.find? state with
  | none => exact .inl rfl
  | some node =>
    cases he : (m.edgesFrom node event).find? (·.guard.holds ctx) with
    | none => exact .inl (by simp only [he])
    | some edge =>
      cases ht : m.states.find? edge.target with
      | none => exact .inl (by simp only [he, ht])
      | some target => exact .inr ⟨node, edge, target, rfl, he, ht, by simp only [he, ht]⟩

theorem entryActions_eq {node : Node} (h : m.states.find? state = some node) :
    m.entryActions state = node.entry := by
  unfold entryActions
  rw [h]

def exitActions (m : Machine) (state : String) : List Action :=
  match m.states.find? state with
  | some node => node.exit
  | none => []

def along (m : Machine) (state : String) (edge : Edge) : Outcome :=
  ⟨edge.target, m.exitActions state ++ edge.actions ++ m.entryActions edge.target, true⟩

/-- A handled event took one of the edges that leave the state, and its guard admitted the
history. -/
theorem transition_along (h : (m.transition state event ctx).handled = true) :
    ∃ edge, (event, edge) ∈ m.exits state ∧ edge.guard.admits ctx.history = true ∧
      m.transition state event ctx = m.along state edge := by
  obtain hu | ⟨node, edge, target, hn, he, ht, ho⟩ := m.transition_cases state event ctx
  · rw [hu] at h
    cases h
  · have holds : edge.guard.holds ctx = true := by simpa using List.find?_some he
    refine ⟨edge, mem_exits hn (List.mem_of_find?_eq_some he), Guard.admits_of_holds holds, ?_⟩
    rw [ho, along, exitActions, hn, entryActions_eq ht]

/-- The entry actions of the target end the list. -/
theorem transition_handled (h : (m.transition state event ctx).handled = true) :
    ∃ edge, (event, edge) ∈ m.exits state ∧ edge.guard.admits ctx.history = true ∧
      (m.transition state event ctx).state = edge.target ∧
      m.entryActions edge.target ⊆ (m.transition state event ctx).actions := by
  obtain ⟨edge, exit, admits, answer⟩ := transition_along h
  rw [answer]
  exact ⟨edge, exit, admits, rfl, List.subset_append_right _ _⟩

theorem transition_unhandled (h : (m.transition state event ctx).handled = false) :
    m.transition state event ctx = .unhandled state := by
  obtain hu | ⟨node, edge, target, -, -, -, ho⟩ := m.transition_cases state event ctx
  · exact hu
  · rw [ho] at h
    cases h

/-- An event that a state handles, with the answer to it. -/
structure Move where
  source : String
  event : String
  answer : Outcome

/-- Everything that events can make a machine do. -/
def moves (m : Machine) : List Move :=
  m.states.names.flatMap fun state =>
    (m.exits state).map fun exit => ⟨state, exit.1, m.along state exit.2⟩

theorem mem_names_of_contains (h : m.contains state = true) : state ∈ m.states.names := by
  unfold contains Table.contains at h
  obtain ⟨node, hn⟩ := Option.isSome_iff_exists.1 h
  exact List.mem_map_of_mem (Table.mem_entries_of_find? hn)

theorem contains_of_mem_exits {exit : String × Edge} (h : exit ∈ m.exits state) :
    m.contains state = true := by
  unfold contains Table.contains
  unfold exits ownExits globalExits at h
  cases hn : m.states.find? state with
  | some node => rfl
  | none => simp [hn] at h

theorem mem_moves (h : (m.transition state event ctx).handled = true) :
    ⟨state, event, m.transition state event ctx⟩ ∈ m.moves := by
  obtain ⟨edge, exit, -, answer⟩ := transition_along h
  rw [answer, moves, List.mem_flatMap]
  exact ⟨state, mem_names_of_contains (contains_of_mem_exits exit),
    List.mem_map_of_mem exit⟩

/-- Everything that a machine may ask for. -/
def actions (m : Machine) : List Action :=
  m.entryActions m.initial ++ m.moves.flatMap (·.answer.actions)

theorem actions_of_entry (m : Machine) : m.entryActions m.initial ⊆ m.actions :=
  List.subset_append_left _ _

theorem actions_of_transition (m : Machine) (state event : String) (ctx : Context) :
    (m.transition state event ctx).actions ⊆ m.actions := by
  intro action mem
  cases handled : (m.transition state event ctx).handled with
  | true =>
    exact List.mem_append_right _ (List.mem_flatMap.2 ⟨_, mem_moves handled, mem⟩)
  | false =>
    rw [transition_unhandled handled] at mem
    cases mem

/-- Guards that do not look back make the event's effect the same for every history. -/
theorem transition_of_not_looksBack {params : Option FlowParams} (history : List String)
    (h : ∀ exit ∈ m.exits state, exit.1 = event → exit.2.guard.looksBack = false) :
    m.transition state event ⟨params, history⟩ = m.transition state event ⟨params, []⟩ := by
  unfold transition
  cases hn : m.states.find? state with
  | none => rfl
  | some node =>
    have same : (m.edgesFrom node event).find? (·.guard.holds ⟨params, history⟩) =
        (m.edgesFrom node event).find? (·.guard.holds ⟨params, []⟩) := by
      refine List.find?_congr fun edge mem => ?_
      have ahead := h _ (mem_exits hn mem) rfl
      cases hg : edge.guard with
      | visited s =>
        rw [hg] at ahead
        cases ahead
      | _ => rfl
    dsimp only
    rw [same]

def firstEdge? (m : Machine) (state event : String) : Option Edge :=
  (m.states.find? state).bind fun node => (m.edgesFrom node event).head?

/-- If the first edge is open, nothing else counts. -/
theorem transition_of_firstEdge? {edge : Edge} {left right : Context}
    (h : m.firstEdge? state event = some edge) (hl : edge.guard.holds left = true)
    (hr : edge.guard.holds right = true) :
    m.transition state event left = m.transition state event right := by
  unfold firstEdge? at h
  unfold transition
  cases hn : m.states.find? state with
  | none => rfl
  | some node =>
    rw [hn, Option.bind_some] at h
    obtain ⟨rest, edges⟩ := List.head?_eq_some_iff.1 h
    simp only [edges, List.find?_cons, hl, hr]

theorem contains_of_find? {node : Node} (h : m.states.find? state = some node) :
    m.contains state = true := by
  unfold contains Table.contains
  rw [h]
  rfl

theorem contains_transition (h : m.contains state = true) :
    m.contains (m.transition state event ctx).state = true := by
  obtain hu | ⟨node, edge, target, hn, he, ht, ho⟩ := m.transition_cases state event ctx
  · rw [hu]
    exact h
  · rw [ho]
    exact contains_of_find? ht

end Machine

end GuidedTour
