import Mathlib.Data.List.Infix
import GuidedTour.Proofs.Tour.Soundness

/-! The walks through the built-in flows. A flow's screens form a line, or a fork for the
secrets flow; what its history can record are the fronts of these walks. Events extend
such a front by one screen, cut it back, or start it again. Hence every run keeps the
history of the active flow a simple path along one branch, and within the step count. -/
namespace GuidedTour

/-- A path of edges of the states' own, from the initial state, that visits none twice. -/
structure Machine.Path (m : Machine) (states : List String) (last : String) : Prop where
  nodup : states.Nodup
  starts : states.head? = some m.initial
  ends : states.getLast? = some last
  linked : states.IsChain m.Leads

theorem Feature.forall_iff {p : Feature → Prop} : (∀ f ∈ Feature.all, p f) ↔ ∀ f, p f :=
  ⟨fun h f => h f (mem_all f), fun h f _ => h f⟩

instance {p : Feature → Prop} [DecidablePred p] : Decidable (∀ f, p f) :=
  decidable_of_iff _ Feature.forall_iff

namespace Flow

/-- The screens of a built-in flow from the first to the last, one list for each branch. -/
def walks : Feature → List (List String)
  | .secrets => [
    ["idle", "enable", "details", "role", "displayRole", "credentials", "display"],
    ["idle", "enable", "details", "secret", "display"],
    ["idle", "enable", "details", "encryption", "display"],
    ["idle", "enable", "list", "display"]]
  | .authentication => [["idle", "enable", "config", "details"]]
  | .policies => [["idle", "create", "details", "delete", "others"]]
  | .replication => [["setup", "details"]]
  | .tools => [
    ["wrap", "wrapped", "lookup", "info", "rewrap", "rewrapped", "unwrap", "unwrapped"]]

/-- What the history of a built-in flow can record. -/
def histories (f : Feature) : List (List String) := (walks f).flatMap (·.inits.tail)

/-- The history is the front of a walk that ends at the flow's state. -/
structure Walked (flow : Flow) : Prop where
  history : flow.history ∈ histories flow.feature
  ends : flow.history.getLast? = some flow.state

theorem initial_mem_histories (f : Feature) :
    [(Registry.builtin.flow f).initial] ∈ histories f := by
  cases f <;> decide +kernel

/-- A simple path from the first screen that can be recorded and fits the step count. An edge
whose guard admits it completes the flow or leads to another history. -/
structure Front (f : Feature) (h : List String) : Prop where
  nodup : h.Nodup
  starts : h.head? = some (Registry.builtin.flow f).initial
  linked : h.IsChain (Registry.builtin.flow f).Leads
  recordable : ∀ s ∈ h, (Registry.builtin.flow f).contains s = true ∧
    (Registry.builtin.flow f).isTerminal s = false
  within : h.length ≤ totalSteps f h
  onward : ∀ last ∈ h.getLast?, ∀ exit ∈ (Registry.builtin.flow f).exits last,
    exit.2.guard.admits h = true →
      .completeFeature ∈ (Registry.builtin.flow f).entryActions exit.2.target ∨
        Tour.recordVisit exit.1 exit.2.target
          ((Registry.builtin.flow f).isTerminal exit.2.target) h ∈ histories f ∧
        (Registry.builtin.flow f).isTerminal exit.2.target = false

instance (f : Feature) : DecidablePred (Front f) := fun _ =>
  decidable_of_iff (_ ∧ _ ∧ _ ∧ _ ∧ _ ∧ _)
    ⟨fun ⟨nodup, starts, linked, recordable, within, onward⟩ =>
      ⟨nodup, starts, linked, recordable, within, onward⟩,
    fun h => ⟨h.nodup, h.starts, h.linked, h.recordable, h.within, h.onward⟩⟩

theorem front_of_mem_histories (f : Feature) : ∀ h ∈ histories f, Front f h := by
  cases f <;> decide +kernel

theorem branch_of_mem_histories (left right : Branch) : ∀ h ∈ histories .secrets,
    left.marker ∈ h → right.marker ∈ h → left = right := by
  cases left <;> cases right <;> decide +kernel

theorem getLast?_recordVisit (event state : String) (history : List String) :
    (Tour.recordVisit event state false history).getLast? = some state := by
  unfold Tour.recordVisit
  rw [if_neg Bool.false_ne_true]
  split
  · rfl
  · split
    · exact List.getLast?_concat
    · exact List.getLast?_concat

namespace Walked

variable {flow : Flow}

theorem front (h : flow.Walked) : Front flow.feature flow.history :=
  front_of_mem_histories _ _ h.history

theorem path (h : flow.Walked) :
    (Registry.builtin.flow flow.feature).Path flow.history flow.state :=
  ⟨h.front.nodup, h.front.starts, h.ends, h.front.linked⟩

theorem isTerminal_state (h : flow.Walked) :
    (Registry.builtin.flow flow.feature).isTerminal flow.state = false :=
  (h.front.recordable _ (List.mem_of_getLast? h.ends)).2

theorem fits (h : flow.Walked) : flow.Fits .builtin :=
  ⟨(h.front.recordable _ (List.mem_of_getLast? h.ends)).1, h.front.recordable, fun _ => h.ends,
    h.front.within⟩

/-- A handled event leaves a walked flow, unless it completes the flow. -/
theorem moved (h : flow.Walked) {event : String} {params : FlowParams}
    (handled : (flow.answer .builtin event params).handled = true) :
    (flow.moved .builtin event (flow.answer .builtin event params)).Walked ∨
      .completeFeature ∈ (flow.answer .builtin event params).actions := by
  obtain ⟨edge, exit, admits, target, entry⟩ := Machine.transition_handled handled
  have state : (flow.answer .builtin event params).state = edge.target := target
  obtain completes | ⟨history, lasting⟩ := h.front.onward _ h.ends _ exit admits
  · exact .inr (entry completes)
  · left
    unfold Flow.moved
    rw [state]
    refine ⟨history, ?_⟩
    rw [lasting]
    exact getLast?_recordVisit _ _ _

end Walked

theorem keeps_walked : Registry.builtin.Keeps fun _ flow => flow.Walked where
  initial := by decide +kernel
  begun _ f := ⟨initial_mem_histories f, rfl⟩
  tutorial h _ := h
  flow _ h handled := h.moved handled

end Flow

/-- Every run leaves a session that can be written down and resumed. Its flow is at no
terminal state, and the history is a simple path along one branch, hence within the steps. -/
theorem Tour.record_run_enter (ops : List Operation) :
    let s := ((Tour.enter .builtin).run ops).session
    s.record.defect? .builtin = none ∧
      ∀ flow, s.flow = some flow →
        (Registry.builtin.flow flow.feature).isTerminal flow.state = false ∧
        (Registry.builtin.flow flow.feature).Path flow.history flow.state ∧
        (flow.feature = .secrets → ∀ left right : Branch,
          left.marker ∈ flow.history → right.marker ∈ flow.history → left = right) ∧
        flow.history.length ≤ totalSteps flow.feature flow.history := by
  have sound := (sound_enter Flow.keeps_walked).run Flow.keeps_walked ops
  have fits := sound.fits fun _ _ walked => walked.fits
  refine ⟨Session.defect?_record_eq_none_iff.2 fits, fun flow hf => ?_⟩
  have walked := (sound.flow flow hf).2
  refine ⟨walked.isTerminal_state, walked.path, fun secrets left right hl hr => ?_,
    walked.fits.within⟩
  have history := walked.history
  rw [secrets] at history
  exact Flow.branch_of_mem_histories left right _ history hl hr

end GuidedTour
