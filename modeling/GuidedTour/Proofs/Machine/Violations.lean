import GuidedTour.Proofs.Machine.Faults

/-! What is asked of a blueprint, and what it is refused for. The rules are about the clauses as
they are written: the last description of each state, and the edges for an event in their order. A
blueprint that breaks none of them is accepted. Of all places where one is broken, the first one
is reported, and what is no longer written of a state counts for nothing. -/
namespace GuidedTour

namespace Machine

attribute [ext] Machine

variable {m : Machine} {source : Option String} {event : String} {index : ℕ} {edge : Edge}
  {fault : Fault}

theorem mem_edgeFaults_iff : fault ∈ m.edgeFaults source event index edge ↔
    (m.contains edge.target = false ∧ fault = (.edge source event index .target,
      .targetUndefined (sourceName source) event edge.target)) ∨
    ∃ state, edge.guard = .visited state ∧ m.contains state = false ∧
      fault = (.edge source event index .guard,
        .guardUndefined (sourceName source) event state) := by
  unfold edgeFaults
  rw [List.mem_append]
  refine or_congr ?_ ?_
  · cases m.contains edge.target <;> simp
  · cases edge.guard with
    | visited state => cases known : m.contains state <;> simp [known]
    | _ => simp

/-- The faults of a table, in terms of what is looked up in it. -/
theorem mem_tableFaults_iff {table : Table (List Edge)} (filled : table.Filled) :
    fault ∈ m.tableFaults source table ↔
      ((table.find? "").getD [] ≠ [] ∧
        fault = (.edge source "" 0 .event, .unnamedEvent (sourceName source))) ∨
      ∃ event index edge, ((table.find? event).getD [])[index]? = some edge ∧
        fault ∈ m.edgeFaults source event index edge := by
  unfold tableFaults eventFaults
  simp only [List.mem_flatMap, Prod.exists, filled.mem_entries_iff, List.mem_append,
    List.mem_zipIdx_iff_getElem?]
  constructor
  · rintro ⟨event, edges, ⟨rfl, some⟩, unnamed | ⟨edge, index, there, mem⟩⟩
    · split_ifs at unnamed with missing
      · subst missing
        exact .inl ⟨some, List.mem_singleton.1 unnamed⟩
      · cases unnamed
    · exact .inr ⟨event, index, edge, there, mem⟩
  · rintro (⟨some, rfl⟩ | ⟨event, index, edge, there, mem⟩)
    · exact ⟨"", _, ⟨rfl, some⟩, .inl (by simp)⟩
    · refine ⟨event, _, ⟨rfl, fun nothing => ?_⟩, .inr ⟨edge, index, there, mem⟩⟩
      rw [nothing] at there
      cases there

end Machine

namespace Blueprint

open Machine

/-- The edges that are written for an event, in order: of a state, or (`none`) of the whole
machine. -/
def written (b : Blueprint) (source : Option String) (event : String) : List Edge :=
  match source with
  | some state => ((b.about? state).getD []).filterMap (·.edgeOn? event)
  | none => b.clauses.filterMap (·.edgeOn? event)

/-- All that is asked of a blueprint. -/
structure WellFormed (b : Blueprint) : Prop where
  key : b.key ≠ ""
  initial : (b.about? b.initial).isSome = true
  named : ∀ source, b.written source "" = []
  target : ∀ source event, ∀ edge ∈ b.written source event, (b.about? edge.target).isSome = true
  guard : ∀ source event, ∀ edge ∈ b.written source event, ∀ state, edge.guard = .visited state →
    (b.about? state).isSome = true
  ignored : ∀ state clauses event, b.about? state = some clauses → .ignore event ∈ clauses →
    b.written none event ≠ []

/-- A rule that is broken in a place, and the defect that it makes. -/
inductive Breaks (b : Blueprint) : Place → Defect → Prop where
  | key : b.key = "" → Breaks b .key .emptyKey
  | initial : b.about? b.initial = none → Breaks b .initial (.initialUndefined b.initial)
  | event {source} : b.written source "" ≠ [] →
      Breaks b (.edge source "" 0 .event) (.unnamedEvent (sourceName source))
  | target {source event index edge} : (b.written source event)[index]? = some edge →
      b.about? edge.target = none → Breaks b (.edge source event index .target)
        (.targetUndefined (sourceName source) event edge.target)
  | guard {source event index edge state} : (b.written source event)[index]? = some edge →
      edge.guard = .visited state → b.about? state = none →
      Breaks b (.edge source event index .guard)
        (.guardUndefined (sourceName source) event state)
  | ignored {state clauses event} : b.about? state = some clauses → .ignore event ∈ clauses →
      b.written none event = [] → Breaks b (.ignored state event) (.ignoredNotGlobal state event)

variable {b b' : Blueprint} {place : Place} {defect : Defect}

theorem contains_eq_false_iff {state : String} :
    b.machine.contains state = false ↔ b.about? state = none := by
  rw [contains_machine, Option.isSome_eq_false_iff, Option.isNone_iff_eq_none]

theorem find?_globals (b : Blueprint) (event : String) :
    (b.machine.globals.find? event).getD [] = b.written none event := by
  have globals := (tables_foldl { key := b.key, initial := b.initial } b.clauses).2 event
  simpa [machine, written] using globals

theorem find?_edges {state : String} {clauses : List Node.Clause}
    (h : b.about? state = some clauses) (event : String) :
    ((Node.ofClauses clauses).edges.find? event).getD [] = b.written (some state) event := by
  rw [(Node.written_ofClauses clauses).edges, written, h]
  rfl

/-- The faults of a table are where the rules are broken for what it keeps. -/
theorem mem_tableFaults_iff_breaks {source : Option String} {table : Table (List Edge)}
    (filled : table.Filled)
    (keeps : ∀ event, (table.find? event).getD [] = b.written source event) :
    (place, defect) ∈ b.machine.tableFaults source table ↔
      b.Breaks place defect ∧ ∃ event index check, place = .edge source event index check := by
  rw [mem_tableFaults_iff filled]
  simp only [keeps, mem_edgeFaults_iff, contains_eq_false_iff]
  constructor
  · rintro (⟨some, same⟩ | ⟨event, index, edge, there, ⟨unknown, same⟩ |
      ⟨state, guard, unknown, same⟩⟩) <;> cases same
    · exact ⟨.event some, _, _, _, rfl⟩
    · exact ⟨.target there unknown, _, _, _, rfl⟩
    · exact ⟨.guard there guard unknown, _, _, _, rfl⟩
  · rintro ⟨breaks, _, _, _, rfl⟩
    cases breaks with
    | event some => exact .inl ⟨some, rfl⟩
    | target there unknown => exact .inr ⟨_, _, _, there, .inl ⟨unknown, rfl⟩⟩
    | guard there guard unknown => exact .inr ⟨_, _, _, there, .inr ⟨_, guard, unknown, rfl⟩⟩

theorem mem_tableFaults_own {state : String} {clauses : List Node.Clause}
    (h : b.about? state = some clauses) :
    (place, defect) ∈ b.machine.tableFaults (some state) (Node.ofClauses clauses).edges ↔
      b.Breaks place defect ∧ ∃ event index check, place = .edge (some state) event index check :=
  mem_tableFaults_iff_breaks (Node.listed_ofClauses clauses).edges (find?_edges h)

theorem mem_tableFaults_global :
    (place, defect) ∈ b.machine.tableFaults none b.machine.globals ↔
      b.Breaks place defect ∧ ∃ event index check, place = .edge none event index check :=
  mem_tableFaults_iff_breaks b.lists_machine.globals b.find?_globals

theorem mem_ignoredFaults_iff {state : String} {clauses : List Node.Clause}
    (h : b.about? state = some clauses) :
    (place, defect) ∈ b.machine.ignoredFaults state (.ofClauses clauses) ↔
      b.Breaks place defect ∧ ∃ event, place = .ignored state event := by
  have listed (event : String) : event ∈ (Node.ofClauses clauses).ignored.names ↔
      .ignore event ∈ clauses := by
    rw [← (Node.written_ofClauses clauses).ignored, Table.contains, Option.isSome_iff_exists]
    simp [Table.names, ← (Node.listed_ofClauses clauses).ignored.mem_entries_iff]
  have global (event : String) : b.machine.globals.contains event = false ↔
      b.written none event = [] := by
    rw [← find?_globals, Table.contains]
    have some := b.lists_machine.globals.some event
    cases found : b.machine.globals.find? event with
    | none => simp
    | some edges =>
      rw [found] at some
      simpa using fun nothing => some (congrArg _ nothing)
  unfold ignoredFaults
  simp only [List.mem_map, List.mem_filter, listed, Bool.not_eq_true', global, Prod.mk.injEq]
  constructor
  · rintro ⟨event, ⟨ignores, never⟩, rfl, rfl⟩
    exact ⟨.ignored h ignores never, event, rfl⟩
  · rintro ⟨breaks, event, rfl⟩
    cases breaks with
    | ignored described ignores never =>
      obtain rfl := Option.some.inj (h.symm.trans described)
      exact ⟨event, ⟨ignores, never⟩, rfl, rfl⟩

/-- Edges are written only for a state that is described. -/
theorem described_of_breaks {state event : String} {index : ℕ} {check : Check}
    (h : b.Breaks (.edge (some state) event index check) defect) :
    ∃ clauses, b.about? state = some clauses := by
  have nothing (unknown : b.about? state = none) (event : String) :
      b.written (some state) event = [] := by
    rw [written, unknown]
    rfl
  cases described : b.about? state with
  | some clauses => exact ⟨clauses, rfl⟩
  | none =>
    cases h with
    | event some => exact absurd (nothing described _) some
    | target there => simp [nothing described] at there
    | guard there => simp [nothing described] at there

/-- The faults of the machine are the rules that the blueprint breaks. -/
theorem mem_faults_iff : (place, defect) ∈ b.machine.faults ↔ b.Breaks place defect := by
  have lists := b.lists_machine
  unfold faults
  rw [lists.key, lists.initial]
  simp only [List.mem_append, List.mem_flatMap, Prod.exists, mem_states_iff]
  constructor
  · rintro ((((key | initial) | ⟨state, _, ⟨clauses, described, rfl⟩, own⟩) | global) |
      ⟨state, _, ⟨clauses, described, rfl⟩, ignored⟩)
    · split_ifs at key with missing
      · cases List.mem_singleton.1 key
        exact .key missing
      · cases key
    · split_ifs at initial with known
      · cases initial
      · cases List.mem_singleton.1 initial
        exact .initial (contains_eq_false_iff.1 (Bool.not_eq_true _ ▸ known))
    · exact ((mem_tableFaults_own described).1 own).1
    · exact (mem_tableFaults_global.1 global).1
    · exact ((mem_ignoredFaults_iff described).1 ignored).1
  · intro breaks
    cases place with
    | key =>
      cases breaks with
      | key missing => exact .inl (.inl (.inl (.inl (by simp [missing]))))
    | initial =>
      cases breaks with
      | initial unknown =>
        exact .inl (.inl (.inl (.inr (by simp [contains_eq_false_iff.2 unknown]))))
    | edge source event index check =>
      cases source with
      | none => exact .inl (.inr (mem_tableFaults_global.2 ⟨breaks, _, _, _, rfl⟩))
      | some state =>
        obtain ⟨clauses, described⟩ := described_of_breaks breaks
        exact .inl (.inl (.inr ⟨state, _, ⟨clauses, described, rfl⟩,
          (mem_tableFaults_own described).2 ⟨breaks, _, _, _, rfl⟩⟩))
    | ignored state event =>
      cases breaks with
      | @ignored _ clauses _ described ignores never =>
        exact .inr ⟨state, _, ⟨clauses, described, rfl⟩,
          (mem_ignoredFaults_iff described).2 ⟨.ignored described ignores never, _, rfl⟩⟩

theorem inOrder_machine (b : Blueprint) : InOrder b.machine.faults := by
  refine inOrder_faults b.lists_machine.states ?_ b.lists_machine.globals.sorted
  rintro ⟨state, node⟩ mem
  obtain ⟨clauses, -, rfl⟩ := b.mem_states_iff.1 mem
  exact Node.listed_ofClauses clauses

/-- A blueprint is well-formed exactly if it breaks no rule anywhere. -/
theorem wellFormed_iff : b.WellFormed ↔ ∀ place defect, ¬b.Breaks place defect := by
  have unknown {state : String} (known : (b.about? state).isSome = true) :
      b.about? state ≠ none := Option.isSome_iff_ne_none.1 known
  constructor
  · intro formed place defect breaks
    cases breaks with
    | key missing => exact formed.key missing
    | initial none => exact unknown formed.initial none
    | event some => exact some (formed.named _)
    | target there none =>
      exact unknown (formed.target _ _ _ (List.mem_of_getElem? there)) none
    | guard there guard none =>
      exact unknown (formed.guard _ _ _ (List.mem_of_getElem? there) _ guard) none
    | ignored described ignores never => exact formed.ignored _ _ _ described ignores never
  · intro sound
    have known {state : String} (h : b.about? state ≠ none) : (b.about? state).isSome = true :=
      Option.isSome_iff_ne_none.2 h
    refine ⟨fun missing => sound _ _ (.key missing), known fun none => sound _ _ (.initial none),
      fun source => ?_, fun source event edge mem => ?_, fun source event edge mem state guard => ?_,
      fun state clauses event described ignores never =>
        sound _ _ (.ignored described ignores never)⟩
    · exact Classical.byContradiction fun some => sound _ _ (.event some)
    · obtain ⟨index, there⟩ := List.getElem?_of_mem mem
      exact known fun none => sound _ _ (.target there none)
    · obtain ⟨index, there⟩ := List.getElem?_of_mem mem
      exact known fun none => sound _ _ (.guard there guard none)

theorem defect?_eq_some_iff : b.machine.defect? = some defect ↔ ∃ place,
    b.Breaks place defect ∧ ∀ other defect, b.Breaks other defect → place.rank ≤ other.rank := by
  rw [defect?_eq_head?, Option.map_eq_some_iff]
  simp only [Prod.exists, b.inOrder_machine.head?_eq_some_iff, Prod.forall, mem_faults_iff,
    exists_eq_right]

/-- The key, the initial state, the last description of every state and the edges of the whole
machine are all that a machine is made of. -/
theorem machine_congr (key : b.key = b'.key) (initial : b.initial = b'.initial)
    (about : ∀ state, b.about? state = b'.about? state)
    (global : ∀ event, b.written none event = b'.written none event) :
    b.machine = b'.machine := by
  have lists := b.lists_machine
  have lists' := b'.lists_machine
  have states : b.machine.states = b'.machine.states :=
    lists.states.eq_of_find? lists'.states fun state => by rw [find?_machine, find?_machine, about]
  have globals : b.machine.globals = b'.machine.globals :=
    lists.globals.eq_of_getD lists'.globals fun event => by
      rw [find?_globals, find?_globals, global]
  exact Machine.ext (lists.key.trans (key.trans lists'.key.symm))
    (lists.initial.trans (initial.trans lists'.initial.symm)) globals states

theorem build_eq_error_iff {invalid : Invalid} : b.build = .error invalid ↔
    invalid.key = b.key ∧ b.machine.defect? = some invalid.defect := by
  have key := b.lists_machine.key
  unfold build invalid?
  rw [key]
  cases b.machine.defect? with
  | none => simp
  | some defect =>
    cases invalid
    simp [eq_comm]

/-- A description that a later one replaces is not in the machine. -/
theorem machine_of_replaced (b : Blueprint) (before between after : List Machine.Clause)
    (name : String) (replaced later : List Node.Clause) :
    { b with clauses := before ++ Machine.Clause.state name replaced :: between ++
        Machine.Clause.state name later :: after }.machine =
      { b with clauses :=
        before ++ between ++ Machine.Clause.state name later :: after }.machine := by
  have edgeless (clauses : List Node.Clause) (event : String) :
      (Machine.Clause.state name clauses).edgeOn? event = none := rfl
  refine machine_congr rfl rfl (fun state => ?_) fun event => ?_
  · unfold about?
    by_cases same : name = state <;>
      simp [List.findSome?_append, Machine.Clause.about?, same]
  · unfold written
    simp [List.filterMap_append, edgeless]

/-- A blueprint is accepted exactly if it is well-formed. Otherwise it is refused with its key and
the defect of the first place where a rule is broken. What is written of a state that is described
again later makes no difference. -/
theorem build_accepts_iff_wellFormed (b : Blueprint) :
    ((∃ m, b.build = .ok m) ↔ b.WellFormed) ∧
    (∀ invalid, b.build = .error invalid ↔ invalid.key = b.key ∧ ∃ place,
      b.Breaks place invalid.defect ∧
        ∀ other defect, b.Breaks other defect → place.rank ≤ other.rank) ∧
    ∀ before name replaced between later after,
      { b with clauses := before ++ Machine.Clause.state name replaced :: between ++
        Machine.Clause.state name later :: after }.build =
      { b with clauses :=
        before ++ between ++ Machine.Clause.state name later :: after }.build := by
  refine ⟨?_, fun invalid => ?_, fun before name replaced between later after => ?_⟩
  · rw [wellFormed_iff]
    simp only [build_eq_ok_iff, exists_and_left, exists_eq', and_true]
    rw [defect?_eq_head?, Option.map_eq_none_iff, List.head?_eq_none_iff,
      List.eq_nil_iff_forall_not_mem]
    simp only [Prod.forall, mem_faults_iff]
  · rw [build_eq_error_iff, defect?_eq_some_iff]
  · unfold build
    rw [machine_of_replaced]

/-- The first `shut` counts for nothing, and the target is looked at before the guard. -/
example : (Blueprint.mk "door" "shut" [.state "shut" [.on "PUSH" "ajar", .ignore "SLAM"],
    .state "open" [.on "PULL" "shut", .onWhen "PULL" "gone" (.visited "lost")],
    .state "shut" [.on "PUSH" "open"]]).machine.defect? =
      some (.targetUndefined "open" "PULL" "gone") := by decide

end Blueprint

end GuidedTour
