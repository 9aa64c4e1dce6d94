import GuidedTour.Proofs.Tour.Answering
import GuidedTour.Proofs.Tour.Structure

/-! What a tour ignores. An event is handled exactly if nothing stands in its way: its claim is
right, its machine is listening, and an edge is open that it may take. Any other event is
answered with the claim it came with, and leaves everything as it was, the stored parameters and
the pending intents included. -/
namespace GuidedTour

theorem Registry.builtin_built : Registry.builtin.Built where
  tutorial := ⟨Flow.Tutorial.blueprint, Blueprint.build_eq_ok_iff.2 ⟨by decide +kernel, rfl⟩⟩
  flow
    | .secrets => ⟨Flow.Secrets.blueprint, Blueprint.build_eq_ok_iff.2 ⟨by decide +kernel, rfl⟩⟩
    | .authentication =>
      ⟨Flow.Authentication.blueprint, Blueprint.build_eq_ok_iff.2 ⟨by decide +kernel, rfl⟩⟩
    | .policies => ⟨Flow.Policies.blueprint, Blueprint.build_eq_ok_iff.2 ⟨by decide +kernel, rfl⟩⟩
    | .replication =>
      ⟨Flow.Replication.blueprint, Blueprint.build_eq_ok_iff.2 ⟨by decide +kernel, rfl⟩⟩
    | .tools => ⟨Flow.Tools.blueprint, Blueprint.build_eq_ok_iff.2 ⟨by decide +kernel, rfl⟩⟩

namespace Tour

variable {t : Tour}

theorem listens_iff (built : t.registry.Built) {flow : Flow} (hf : t.session.flow = some flow)
    {claim event : String} {given : Option FlowParams} :
    (∃ flow, t.Listens claim event given flow) ↔ t.session.isActive = true ∧ claim = flow.state ∧
      ∃ edge, (t.registry.flow flow.feature).Offers claim event edge ∧
        edge.guard.holds ⟨some (given.getD t.session.params), flow.history⟩ = true := by
  have closed := built.closed_flow flow.feature
  constructor
  · rintro ⟨other, running, active, claimed, handled⟩
    obtain rfl := Option.some.inj (hf.symm.trans running)
    subst claimed
    exact ⟨active, rfl, (Machine.handled_iff closed).1 handled⟩
  · rintro ⟨active, rfl, opened⟩
    exact ⟨flow, hf, active, rfl, (Machine.handled_iff closed).2 opened⟩

/-- Over machines that were built from blueprints, an event is ignored exactly if there is a
reason to: an event for a flow if none is active, if the tutorial is not, if the claim is stale,
or if every edge is closed that it may take; an event for the tutorial for the last two reasons.
An ignored event is answered with its claim and no actions, and the tour stays as it is. -/
theorem ignored_iff (built : t.registry.Built) (claim event : String)
    (given : Option FlowParams) :
    ((t.flowFrom claim event given).1.handled = false ↔
      t.session.flow = none ∨ ¬"active.".toList <+: t.session.tutorial.toList ∨
      (∀ flow ∈ t.session.flow, claim ≠ flow.state) ∨
      ∀ flow ∈ t.session.flow, ∀ edge, (t.registry.flow flow.feature).Offers claim event edge →
        edge.guard.holds ⟨some (given.getD t.session.params), flow.history⟩ = false) ∧
    ((t.tutorialFrom claim event).1.handled = false ↔
      claim ≠ t.session.tutorial ∨
      ∀ edge, t.registry.tutorial.Offers claim event edge → edge.guard.holds {} = false) ∧
    ((t.flowFrom claim event given).1.handled = false →
      t.flowFrom claim event given = (⟨claim, [], false⟩, t)) ∧
    ((t.tutorialFrom claim event).1.handled = false →
      t.tutorialFrom claim event = (⟨claim, [], false⟩, t)) := by
  refine ⟨?_, ?_, fun ignored => ?_, fun ignored => ?_⟩
  · rw [← Bool.not_eq_true, handled_flowFrom_iff]
    cases hf : t.session.flow with
    | none =>
      refine iff_of_true ?_ (.inl rfl)
      rintro ⟨flow, listens⟩
      cases hf.symm.trans listens.running
    | some flow =>
      rw [listens_iff built hf, Session.isActive, List.isPrefixOf_iff_prefix, not_and_or,
        not_and_or]
      simp [Option.mem_def]
  · rw [← Bool.not_eq_true, handled_tutorialFrom_iff, not_and_or]
    refine or_congr_right' fun same => ?_
    rw [not_not] at same
    rw [same, tutorialOutcome, Machine.handled_iff built.closed_tutorial]
    simp
  · rw [← Bool.not_eq_true, handled_flowFrom_iff] at ignored
    exact flowFrom_ignores (not_exists.1 ignored)
  · rw [← Bool.not_eq_true, handled_tutorialFrom_iff] at ignored
    exact tutorialFrom_ignores ignored

/-- On the details of a key and value engine. -/
def detailed : List Operation :=
  [.restart, .select [.secrets], .flow none "CONTINUE" none,
    .flow none "CONTINUE" (some { mountType := some "kv" })]

/-- An engine without a branch leads nowhere from there, and is not stored; the tutorial is not
where the second event takes it to be. -/
theorem ignored_iff_detailed :
    let t := (enter .builtin).run detailed
    t.registry.Built ∧ t.session.params = { mountType := some "kv" } ∧
      t.flowFrom "details" "CONTINUE" (some { mountType := some "database" }) =
        (⟨"details", [], false⟩, t) ∧
      t.tutorialFrom "paused" "CONTINUE" = (⟨"paused", [], false⟩, t) ∧
      (t.flowFrom "details" "CONTINUE" none).1.handled = true := by
  intro t
  have built : t.registry.Built := by
    rw [(sound_run_enter detailed).registry]
    exact Registry.builtin_built
  have facts : t.session.params = { mountType := some "kv" } ∧
      (t.flowFrom "details" "CONTINUE" (some { mountType := some "database" })).1.handled = false ∧
      (t.flowFrom "details" "CONTINUE" none).1.handled = true := by
    decide +kernel
  have ignored := ignored_iff built "details" "CONTINUE" (some { mountType := some "database" })
  have elsewhere := ignored_iff built "paused" "CONTINUE" none
  refine ⟨built, facts.1, ignored.2.2.1 facts.2.1, elsewhere.2.2.2 (elsewhere.2.1.2 (.inl ?_)),
    facts.2.2⟩
  decide +kernel

end Tour

end GuidedTour
