import GuidedTour.Progress
import GuidedTour.Proofs.Flow.Revisits
import GuidedTour.Proofs.Flow.Walks

/-! How far along its screens a flow is. Three tables have to agree for the figures to mean
anything: the screens of the machines, the step counts, and the markers of the branches. An event
that leads on adds one screen to the history, and the count of a flow is reached on its last screen
and no earlier. From every screen before it one event leads on. -/
namespace GuidedTour

open Flow.Secrets (roleEngines secretEngines encryptionEngines supportedEngines)

/-- The only branch that a history shows is the one that is detected. -/
theorem Branch.detect_eq {branch : Branch} {history : List String}
    (shows : branch.marker ∈ history)
    (only : ∀ other : Branch, other.marker ∈ history → other = branch) :
    detect history = branch := by
  unfold detect
  cases found : [list, secret, encryption, role].find? fun b => history.contains b.marker with
  | none =>
    have listed : branch ∈ [list, secret, encryption, role] := by cases branch <;> decide
    exact absurd (by simpa using shows) (List.find?_eq_none.1 found branch listed)
  | some other => exact only other (by simpa using List.find?_some found)

namespace Machine

variable {m : Machine} {state event : String} {ctx : Context}

/-- The edges that an event may take out of a state, in the order in which they are tried. -/
def edgesAt (m : Machine) (state event : String) : List Edge :=
  match m.states.find? state with
  | some node => m.edgesFrom node event
  | none => []

theorem handled_of_open (known : ∀ exit ∈ m.exits state, m.contains exit.2.target = true)
    {guard : Guard} (mem : guard ∈ (m.edgesAt state event).map (·.guard))
    (holds : guard.holds ctx = true) : (m.transition state event ctx).handled = true := by
  unfold edgesAt at mem
  unfold transition
  cases hn : m.states.find? state with
  | none => simp [hn] at mem
  | some node =>
    simp only [hn] at mem
    cases he : (m.edgesFrom node event).find? (·.guard.holds ctx) with
    | none =>
      obtain ⟨edge, among, rfl⟩ := List.mem_map.1 mem
      exact absurd holds (List.find?_eq_none.1 he edge among)
    | some taken =>
      have target := known _ (mem_exits hn (List.mem_of_find?_eq_some he))
      obtain ⟨node', ht⟩ := Option.isSome_iff_exists.1 target
      simp only [he, ht]

theorem transition_open (h : (m.transition state event ctx).handled = true) :
    ∃ edge, (event, edge) ∈ m.exits state ∧ edge.guard.holds ctx = true ∧
      (m.transition state event ctx).state = edge.target := by
  obtain hu | ⟨node, edge, target, hn, he, -, ho⟩ := m.transition_cases state event ctx
  · rw [hu] at h
    cases h
  · refine ⟨edge, mem_exits hn (List.mem_of_find?_eq_some he), by simpa using List.find?_some he, ?_⟩
    rw [ho]

end Machine

namespace Flow

variable {flow : Flow} {event : String} {params : FlowParams}

/-- The secrets flow before its fork. -/
structure Undecided (flow : Flow) : Prop where
  secrets : flow.feature = .secrets
  unmarked : ∀ branch : Branch, branch.marker ∉ flow.history

/-- The screen of a built-in flow that its completion follows. -/
def lastScreen : Feature → String
  | .secrets => "display"
  | .authentication => "details"
  | .policies => "others"
  | .replication => "details"
  | .tools => "unwrapped"

/-- The events that start a flow again, end it, or go back to a branch. -/
def asides : List String := ["RESET", "DONE", "REPEAT"]

/-- The guards of the edges that lead on from a screen. One of them holds, whatever the
parameters; but on the details of a secrets engine they have to name an engine with a branch. -/
def Covers (f : Feature) (state : String) (guards : List Guard) : Prop :=
  guards = [.always] ∨ guards = [.mountIn supportedEngines, .mountNotIn supportedEngines] ∨
    (f = .secrets ∧ state = "details") ∧
      guards = [.mountIn roleEngines, .mountIn secretEngines, .mountIn encryptionEngines]

instance (f : Feature) (state : String) (guards : List Guard) :
    Decidable (Covers f state guards) :=
  inferInstanceAs (Decidable (_ ∨ _ ∨ _))

/-- The event leads on from the screen, and nothing else does but going back or ending the flow. -/
def LeadsOnly (f : Feature) (state event : String) : Prop :=
  event ∉ asides ∧
    (∀ exit ∈ (Registry.builtin.flow f).exits state, exit.1 ∉ asides → exit.1 = event) ∧
    Covers f state (((Registry.builtin.flow f).edgesAt state event).map (·.guard))

instance (f : Feature) (state : String) : DecidablePred (LeadsOnly f state) :=
  fun _ => inferInstanceAs (Decidable (_ ∧ _ ∧ _))

/-- The last screen is the one with an edge of its own to the end, and from any other one event
leads on. -/
theorem screens_of_flow (f : Feature) : ∀ state ∈ (Registry.builtin.flow f).states.names,
    ((Registry.builtin.flow f).Leads state "complete" ↔ state = lastScreen f) ∧
    (∀ exit ∈ (Registry.builtin.flow f).exits state,
      (Registry.builtin.flow f).contains exit.2.target = true ∧
      (exit.1 ∉ asides → exit.2.target = "complete" → state = lastScreen f) ∧
      (f = .secrets → exit.2.target = "details" → exit.2.guard = .mountIn supportedEngines)) ∧
    ((Registry.builtin.flow f).isTerminal state = false → state ≠ lastScreen f →
      ∃ exit ∈ (Registry.builtin.flow f).exits state, LeadsOnly f state exit.1) := by
  cases f <;> decide +kernel

def Raises (f : Feature) (h : List String) (state : String) : Prop :=
  h ++ [state] ∈ histories f ∧ Progress.percentOf h.length (totalSteps f h) <
    Progress.percentOf (h ++ [state]).length (totalSteps f (h ++ [state]))

instance (f : Feature) (h : List String) : DecidablePred (Raises f h) :=
  fun _ => inferInstanceAs (Decidable (_ ∧ _))

/-- Whatever leads on from a screen raises the percentage, even where the count changes. -/
def RaisesAll (f : Feature) (h : List String) (last : String) : Prop :=
  ∀ exit ∈ (Registry.builtin.flow f).exits last, exit.2.guard.admits h = true →
    exit.1 ∉ ["RESET", "REPEAT"] → exit.2.target ≠ "complete" → Raises f h exit.2.target

instance (f : Feature) (h : List String) : DecidablePred (RaisesAll f h) :=
  fun last => inferInstanceAs (Decidable (∀ exit ∈ (Registry.builtin.flow f).exits last, _))

theorem figures_of_mem_histories (f : Feature) : ∀ h ∈ histories f, ∀ last ∈ h.getLast?,
    (h.length = totalSteps f h ↔ last = lastScreen f) ∧
    (Progress.percentOf h.length (totalSteps f h) = 100 ↔ last = lastScreen f) ∧
    RaisesAll f h last := by
  cases f <;> decide +kernel

theorem totalSteps_of_marker {branch : Branch} {h : List String} (mem : h ∈ histories .secrets)
    (shows : branch.marker ∈ h) : totalSteps .secrets h = branch.steps :=
  congrArg Branch.steps
    (Branch.detect_eq shows fun other shown => branch_of_mem_histories other branch h mem shown shows)

theorem totalSteps_of_ne_secrets {f : Feature} (h : f ≠ .secrets) (history more : List String) :
    totalSteps f history = totalSteps f more := by
  cases f with
  | secrets => exact absurd rfl h
  | _ => rfl

def total (flow : Flow) : Nat := totalSteps flow.feature flow.history

/-- The screens visited, out of those that the flow has. -/
def percentage (flow : Flow) : Nat := Progress.percentOf flow.history.length flow.total

/-- On the details of a secrets engine an engine with a branch is chosen. -/
def Mounted (flow : Flow) (params : FlowParams) : Prop :=
  flow.feature = .secrets → flow.state = "details" →
    ∃ engine ∈ supportedEngines, params.mountType = some engine

def onto (flow : Flow) (state : String) : Flow :=
  { flow with state, history := flow.history ++ [state] }

theorem begun_mounted (f : Feature) (params : FlowParams) : (begun .builtin f).Mounted params := by
  rintro rfl first
  have idle : "idle" = "details" := first
  exact absurd idle (by decide)

/-- The way to these details is open to an engine with a branch alone. -/
theorem moved_mounted (handled : (flow.answer .builtin event params).handled = true) :
    (flow.moved .builtin event (flow.answer .builtin event params)).Mounted params := by
  intro secrets details
  obtain ⟨edge, exit, holds, target⟩ := Machine.transition_open handled
  have known := Machine.mem_names_of_contains (Machine.contains_of_mem_exits exit)
  have guard := ((screens_of_flow _ _ known).2.1 _ exit).2.2 secrets (target.symm.trans details)
  dsimp only at guard
  rw [guard] at holds
  exact Guard.holds_mountIn_iff.1 holds

theorem covers_of_mounted {guards : List Guard} (h : Covers flow.feature flow.state guards)
    (mounted : flow.Mounted params) (history : List String) :
    ∃ guard ∈ guards, guard.holds ⟨some params, history⟩ = true := by
  obtain rfl | rfl | ⟨⟨secrets, details⟩, rfl⟩ := h
  · exact ⟨.always, List.mem_cons_self, rfl⟩
  · -- Either the engine has a branch or it has none.
    by_cases listed : (Guard.mountIn supportedEngines).holds ⟨some params, history⟩ = true
    · exact ⟨_, List.mem_cons_self, listed⟩
    · refine ⟨_, List.mem_cons_of_mem _ List.mem_cons_self, ?_⟩
      rw [Guard.holds_mountIn_iff, not_exists] at listed
      exact Guard.holds_mountNotIn_iff.2 fun type mem chosen => listed type ⟨mem, chosen⟩
  · obtain ⟨engine, listed, chosen⟩ := mounted secrets details
    unfold supportedEngines at listed
    simp only [List.mem_cons, List.not_mem_nil, or_false, exists_eq_or_imp, exists_eq_left,
      Guard.holds_mountIn_iff]
    rw [List.mem_append, List.mem_append, or_assoc] at listed
    exact listed.imp (⟨engine, ·, chosen⟩) (Or.imp (⟨engine, ·, chosen⟩) (⟨engine, ·, chosen⟩))

namespace Walked

variable (h : flow.Walked)
include h

theorem mem_names : flow.state ∈ (Registry.builtin.flow flow.feature).states.names :=
  Machine.mem_names_of_contains h.fits.state

theorem percentage_eq_iff : flow.percentage = 100 ↔ flow.state = lastScreen flow.feature :=
  (figures_of_mem_histories _ _ h.history _ h.ends).2.1

theorem length_eq_iff :
    flow.history.length = flow.total ↔ flow.state = lastScreen flow.feature :=
  (figures_of_mem_histories _ _ h.history _ h.ends).1

theorem length_le : flow.history.length ≤ flow.total := h.fits.within

/-- Before the last screen no event ends the flow, unless it is one of those that may anywhere. -/
theorem goesOn (before : flow.state ≠ lastScreen flow.feature) (aside : event ∉ asides)
    (handled : (flow.answer .builtin event params).handled = true) :
    (flow.answer .builtin event params).state ≠ "complete" := by
  intro ends
  obtain ⟨edge, exit, -, target⟩ := Machine.transition_open handled
  exact before (((screens_of_flow _ _ h.mem_names).2.1 _ exit).2.1 aside (target.symm.trans ends))

/-- An event that leads on, and neither ends the flow nor starts it again nor goes back. -/
theorem onto (handled : (flow.answer .builtin event params).handled = true)
    (reset : event ≠ "RESET") (again : event ≠ "REPEAT")
    (goesOn : (flow.answer .builtin event params).state ≠ "complete") :
    let next := flow.onto (flow.answer .builtin event params).state
    flow.moved .builtin event (flow.answer .builtin event params) = next ∧ next.Walked ∧
      flow.percentage < next.percentage := by
  intro next
  obtain ⟨edge, exit, admits, target, -⟩ := Machine.transition_handled handled
  have state : (flow.answer .builtin event params).state = edge.target := target
  obtain ⟨mem, raises⟩ := (figures_of_mem_histories _ _ h.history _ h.ends).2.2 _ exit admits
    (by simp [reset, again]) (state ▸ goesOn)
  rw [← state] at mem raises
  refine ⟨?_, ⟨mem, List.getLast?_concat⟩, raises⟩
  have front := front_of_mem_histories _ _ mem
  have lasting := (front.recordable _ (List.mem_concat_self ..)).2
  have fresh := (List.nodup_append.1 front.nodup).2.2
  unfold Flow.moved
  rw [lasting, recordVisit_of_ne_reset reset, revisit_of_notMem fun visited =>
    fresh _ visited _ List.mem_cons_self rfl]
  rfl

/-- One more screen leaves the count alone once the branch shows, and else can only lower it. -/
theorem total_onto {state : String} (next : (flow.onto state).Walked) :
    (flow.onto state).total ≤ flow.total ∧
      (¬flow.Undecided → (flow.onto state).total = flow.total ∧ ¬(flow.onto state).Undecided) := by
  refine ⟨totalSteps_of_subset (List.subset_append_left _ _), fun decided => ?_⟩
  by_cases secrets : flow.feature = .secrets
  · obtain ⟨branch, shows⟩ : ∃ branch : Branch, branch.marker ∈ flow.history := by
      by_contra unmarked
      exact decided ⟨secrets, not_exists.1 unmarked⟩
    have showsThen : branch.marker ∈ (flow.onto state).history := List.mem_append_left _ shows
    have before := h.history
    have after := next.history
    rw [secrets] at before
    rw [show (flow.onto state).feature = .secrets from secrets] at after
    refine ⟨?_, fun undecided => undecided.unmarked branch showsThen⟩
    unfold total
    rw [show (flow.onto state).feature = .secrets from secrets, secrets,
      totalSteps_of_marker before shows, totalSteps_of_marker after showsThen]
  · exact ⟨totalSteps_of_ne_secrets secrets _ _, fun undecided => secrets undecided.secrets⟩

/-- On a screen before the last one event leads on, whatever the parameters, if only an engine
with a branch is chosen on the details of one. -/
theorem existsUnique_event (before : flow.state ≠ lastScreen flow.feature)
    (mounted : flow.Mounted params) :
    ∃! event, event ∉ asides ∧ (flow.answer .builtin event params).handled = true := by
  obtain ⟨-, known, onward⟩ := screens_of_flow _ _ h.mem_names
  obtain ⟨⟨event, edge⟩, -, aside, only, covers⟩ := onward h.isTerminal_state before
  obtain ⟨guard, mem, holds⟩ := covers_of_mounted covers mounted flow.history
  refine ⟨event, ⟨aside, ?_⟩, fun other ⟨asideToo, handled⟩ => ?_⟩
  · exact Machine.handled_of_open (fun exit mem => (known exit mem).1) mem holds
  · obtain ⟨edge, exit, -⟩ := Machine.transition_open handled
    exact only _ exit asideToo

theorem current {s : Session} (hf : s.flow = some flow) : Progress.current s.record =
    some (flow.feature, ⟨flow.history.length, flow.total, flow.percentage⟩) := by
  have step : min flow.history.length (totalSteps flow.feature flow.history) =
      flow.history.length := Nat.min_eq_left h.length_le
  simp [Progress.current, Session.record, hf, step, total, percentage]

end Walked

end Flow

end GuidedTour
