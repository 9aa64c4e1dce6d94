import GuidedTour.Proofs.Flow.Revisits
import GuidedTour.Proofs.Flow.Walks
import GuidedTour.Proofs.Machine.Acceptance

/-! The structure of a session over machines that nobody has written yet. All that is asked of
them is that their blueprints were accepted. Whatever their actions complete, begin or clear,
the state of the tutorial and the states of the active flow stay in their machines, and the
history stays a list of distinct states that ends where the flow is. -/
namespace GuidedTour

structure Registry.Built (r : Registry) : Prop where
  tutorial : ∃ b : Blueprint, b.build = .ok r.tutorial
  flow : ∀ f, ∃ b : Blueprint, b.build = .ok (r.flow f)

namespace Registry.Built

variable {r : Registry}

theorem closed_tutorial (h : r.Built) : r.tutorial.Closed := by
  obtain ⟨b, hb⟩ := h.tutorial
  exact b.closed_of_build hb

theorem closed_flow (h : r.Built) (f : Feature) : (r.flow f).Closed := by
  obtain ⟨b, hb⟩ := h.flow f
  exact b.closed_of_build hb

end Registry.Built

namespace Flow

/-- The state and the history of a flow are in its machine, and the history ends at the state,
unless that is terminal. -/
structure Tracked (r : Registry) (flow : Flow) : Prop where
  state : (r.flow flow.feature).contains flow.state = true
  history : ∀ s ∈ flow.history, (r.flow flow.feature).contains s = true
  ends : (r.flow flow.feature).isTerminal flow.state = false →
    flow.history.getLast? = some flow.state

structure Shaped (r : Registry) (flow : Flow) : Prop extends Tracked r flow where
  nodup : flow.history.Nodup

variable {r : Registry} {flow : Flow} {f : Feature}

theorem begun_tracked (known : (r.flow f).contains (r.flow f).initial = true) :
    (begun r f).Tracked r where
  state := known
  history s mem := by
    cases List.mem_singleton.1 mem
    exact known
  ends _ := rfl

/-- What a move records besides what was recorded is its target, unless that is terminal. -/
theorem mem_moved {s event : String} {outcome : Outcome}
    (h : s ∈ (flow.moved r event outcome).history) : s ∈ flow.history ∨
      (r.flow flow.feature).isTerminal outcome.state = false ∧ s = outcome.state :=
  mem_of_mem_recordVisit h

theorem Tracked.moved (h : flow.Tracked r) (event : String) (params : FlowParams) :
    (flow.moved r event (flow.answer r event params)).Tracked r := by
  have known : (r.flow flow.feature).contains (flow.answer r event params).state = true :=
    Machine.contains_transition h.state
  refine ⟨known, ?_, ?_⟩
  · intro s mem
    obtain before | ⟨-, rfl⟩ := mem_moved mem
    · exact h.history s before
    · exact known
  · intro lasting
    unfold Flow.moved at lasting ⊢
    dsimp only at lasting ⊢
    rw [lasting]
    exact getLast?_recordVisit event _ _

theorem Shaped.moved (h : flow.Shaped r) (event : String) (params : FlowParams) :
    (flow.moved r event (flow.answer r event params)).Shaped r :=
  ⟨h.toTracked.moved event params, recordVisit_nodup h.nodup⟩

theorem keeps_shaped (built : r.Built) : r.Keeps fun _ flow => flow.Shaped r where
  initial := built.closed_tutorial.initial
  begun _ f := ⟨begun_tracked (built.closed_flow f).initial, by simp [begun]⟩
  tutorial h _ := h
  flow _ h _ := .inl (h.moved _ _)

end Flow

namespace Tour

/-- Over machines that were built from blueprints, every run keeps the structure of a session:
its tutorial state is known; flow and flow state are set together, and no history is left
without them; an active flow is planned, in its machine, and at the end of a history of
distinct states, unless its state is terminal. -/
theorem structure_run_enter {r : Registry} (built : r.Built) (ops : List Operation) :
    let s := ((enter r).run ops).session.record
    r.tutorial.contains s.tutorial = true ∧ s.plan.Nodup ∧
    (s.machine.isSome = s.state.isSome) ∧
    (s.machine = none → s.history = []) ∧
    ∀ f state, s.machine = some f → s.state = some state →
      f ∈ s.plan ∧ (r.flow f).contains state = true ∧
      (∀ visited ∈ s.history, (r.flow f).contains visited = true) ∧ s.history.Nodup ∧
      ((r.flow f).isTerminal state = false → s.history.getLast? = some state) := by
  have keeps := Flow.keeps_shaped built
  have sound := (sound_enter keeps).run keeps ops
  refine ⟨sound.tutorial, sound.plan, ?_⟩
  cases hf : ((enter r).run ops).session.flow with
  | none => simp [Session.record, hf]
  | some flow =>
    obtain ⟨planned, shaped⟩ := sound.flow flow hf
    simp only [Session.record, hf, Option.map_some, Option.isSome_some, Option.getD_some,
      reduceCtorEq, false_implies, true_and]
    intro f state hm hs
    cases hm
    cases hs
    exact ⟨planned, shaped.state, shaped.history, shaped.nodup, shaped.ends⟩

/-- A machine with a screen that it completes twice over, and a terminal one. -/
def roundabout : Blueprint where
  key := "roundabout"
  initial := "active.first"
  clauses := [
    .global "RESET" "active.first",
    .state "active.first" [.on "CONTINUE" "active.last", .on "DONE" "active.last",
      .onWith "SKIP" "active.first" [.completeFeature, .completeFeature]],
    .state "active.last" [.entry .showAlways]]

def roundabouts : Registry := ⟨roundabout.machine, fun _ => roundabout.machine⟩

theorem roundabouts_built : roundabouts.Built := by
  have built : roundabout.build = .ok roundabout.machine :=
    Blueprint.build_eq_ok_iff.2 ⟨by decide +kernel, rfl⟩
  exact ⟨⟨_, built⟩, fun _ => ⟨_, built⟩⟩

/-- At a terminal state the history ends before it. -/
theorem structure_run_roundabouts :
    let s := ((enter roundabouts).run
      [.select [.secrets, .tools], .flow none "CONTINUE" none]).session.record
    s.state = some "active.last" ∧ s.history = ["active.first"] ∧
      .secrets ∈ s.plan ∧ (roundabouts.flow .secrets).contains "active.last" = true := by
  intro s
  have machine : s.machine = some .secrets := by decide +kernel
  have state : s.state = some "active.last" := by decide +kernel
  have shape := structure_run_enter roundabouts_built
    [.select [.secrets, .tools], .flow none "CONTINUE" none]
  have active := shape.2.2.2.2 .secrets "active.last" machine state
  exact ⟨state, by decide +kernel, active.1, active.2.1⟩

end Tour

end GuidedTour
