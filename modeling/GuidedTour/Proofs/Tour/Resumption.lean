import GuidedTour.Proofs.Flow.Leading

/-! When a written session is safe to resume. The check of a record looks at the present
length of the history only, so some accepted sessions are refused after a few more events.
They are exactly those whose flow does not last: a paused and resumed tour can be led along
every walk that is still ahead, and through the role branch once more. -/
namespace GuidedTour

namespace Tour

variable {t : Tour} {flow : Flow} {states : List String}

theorem isActive_of_feature (h : t.session.tutorial = "active.feature") :
    t.session.isActive = true := by
  unfold Session.isActive
  rw [h]
  decide

theorem At.active {r : Registry} (h : At r "active.feature" flow t) :
    t.session.isActive = true :=
  isActive_of_feature h.tutorial

theorem At.steer (h : At .builtin "active.feature" flow t) {target : String}
    {cue : String × FlowParams} (steers : Flow.Steers flow.feature flow.state target cue) :
    ∃ next, t.Leads next ∧ At .builtin "active.feature" (flow.visiting target) next := by
  obtain ⟨reset, ahead, calm, leads, lasting⟩ := steers
  have same : flow.answer .builtin cue.1 cue.2 =
      (Registry.builtin.flow flow.feature).transition flow.state cue.1 ⟨some cue.2, []⟩ :=
    Machine.transition_of_not_looksBack flow.history ahead
  rw [← same] at calm leads
  have sent := h.sendFlow h.active calm
  rw [Flow.moved_eq_visiting reset leads lasting] at sent
  exact sent

/-- An active tour can be led along the walks. -/
theorem At.along (h : At .builtin "active.feature" flow t)
    (chain : (flow.state :: states).IsChain fun state target =>
      ∃ cue ∈ Flow.cues, Flow.Steers flow.feature state target cue) :
    ∃ next, t.Leads next ∧ At .builtin "active.feature" (flow.visitingAll states) next := by
  induction states generalizing t flow with
  | nil => exact ⟨t, .refl t, h⟩
  | cons state states ih =>
    rw [List.isChain_cons_cons] at chain
    obtain ⟨⟨cue, -, steers⟩, goesOn⟩ := chain
    obtain ⟨next, leads, there⟩ := h.steer steers
    obtain ⟨last, leadsOn, arrived⟩ := @ih _ (flow.visiting state) there goesOn
    exact ⟨last, leads.trans leadsOn, arrived⟩

/-- At the last screen of the secrets flow the role branch can be walked again. -/
theorem At.again (h : At .builtin "active.feature" flow t) (secrets : flow.feature = .secrets)
    (last : flow.state = "display") (visited : "role" ∈ flow.history) :
    ∃ next, t.Leads next ∧ At .builtin "active.feature" (flow.visiting "role") next := by
  obtain ⟨calm, leads, lasting⟩ := Flow.repeat_role
  have same : flow.answer .builtin "REPEAT" {} =
      (Registry.builtin.flow .secrets).transition "display" "REPEAT" ⟨none, ["role"]⟩ := by
    unfold Flow.answer
    rw [secrets, last]
    exact Machine.transition_of_firstEdge? Flow.firstEdge?_repeat
      (List.contains_iff_mem.2 visited) rfl
  rw [← same] at calm leads
  rw [← secrets] at lasting
  have sent := h.sendFlow h.active calm
  rw [Flow.moved_eq_visiting (by decide) leads lasting] at sent
  exact sent

theorem pause_of_tutorial : ∀ state ∈ Registry.builtin.tutorial.states.names,
    state = "dismissed" ∨ state = "paused" ∨
      (Registry.builtin.tutorial.transition state "PAUSE" {}).IsCalm ∧
        (Registry.builtin.tutorial.transition state "PAUSE" {}).state = "paused" := by
  decide +kernel

theorem continue_of_paused :
    (Registry.builtin.tutorial.transition "paused" "CONTINUE" {}).IsCalm ∧
      (Registry.builtin.tutorial.transition "paused" "CONTINUE" {}).state = "active.feature" := by
  decide +kernel

/-- Unless it is dismissed, a tour can be brought to take events for its flow. -/
theorem At.activate {tutorial : String} (h : At .builtin tutorial flow t)
    (known : Registry.builtin.tutorial.contains tutorial = true) (ne : tutorial ≠ "dismissed") :
    ∃ next, t.Leads next ∧ At .builtin "active.feature" flow next := by
  have resumes {t : Tour} (h : At .builtin "paused" flow t) :
      ∃ next, t.Leads next ∧ At .builtin "active.feature" flow next := by
    have sent := h.sendTutorial continue_of_paused.1
    rw [continue_of_paused.2] at sent
    exact sent
  obtain dismissed | rfl | ⟨calm, paused⟩ :=
    pause_of_tutorial tutorial (Machine.mem_names_of_contains known)
  · exact absurd dismissed ne
  · exact resumes h
  · have sent := h.sendTutorial calm
    rw [paused] at sent
    obtain ⟨next, leads, there⟩ := sent
    obtain ⟨last, leadsOn, arrived⟩ := resumes there
    exact ⟨last, leads.trans leadsOn, arrived⟩

/-- A flow whose history stays within its steps wherever the tour is led lasts. -/
theorem At.lasts (h : At .builtin "active.feature" flow t) (fits : flow.Fits .builtin)
    (safe : ∀ next, t.Leads next → ∀ flow, next.session.flow = some flow →
      Flow.Within flow.feature flow.history) : flow.Lasts := by
  have within {walked : List String} {next : Tour} (leads : t.Leads next)
      (there : At .builtin "active.feature" (flow.visitingAll walked) next) :
      Flow.Within flow.feature (Flow.revisits flow.history walked) := by
    have bounded := safe next leads _ there.flow
    rw [Flow.visitingAll_feature, Flow.visitingAll_history] at bounded
    exact bounded
  intro states mem
  have chain := Flow.steers_onward mem
  refine ⟨Flow.keepsWithin_iff.2 fun front before => ?_, fun visited => ?_⟩
  · have chainFront := List.IsChain.prefix chain ((List.prefix_cons_inj _).2 before)
    obtain ⟨next, leads, there⟩ := h.along chainFront
    exact within leads there
  · -- Walk on to the last screen, return to the role branch, and walk that once more.
    have secrets := Flow.secrets_of_role fits mem visited
    obtain ⟨next, leads, there⟩ := h.along chain
    refine Flow.keepsWithin_iff.2 fun front before => ?_
    rw [← Flow.revisits_append]
    cases front with
    | nil =>
      rw [List.append_nil]
      exact within leads there
    | cons state front =>
      obtain ⟨rfl, rest⟩ := List.cons_prefix_cons.1 before
      obtain ⟨again, leadsBack, back⟩ := there.again (by rw [Flow.visitingAll_feature, secrets])
        (Flow.state_visitingAll_onward secrets mem) (by rw [Flow.visitingAll_history]; exact visited)
      have ahead : ["displayRole", "credentials", "display"] ∈ Flow.onward .secrets "role" := by
        decide
      have chainBack := List.IsChain.prefix (Flow.steers_onward ahead)
        ((List.prefix_cons_inj _).2 rest)
      have same : (flow.visitingAll states).feature = flow.feature := Flow.visitingAll_feature
      rw [← secrets, ← same] at chainBack
      obtain ⟨last, leadsOn, arrived⟩ := back.along chainBack
      refine within (leads.trans (leadsBack.trans leadsOn)) ?_
      rw [Flow.visitingAll_append]
      exact arrived

/-- The tutorial is dismissed, or the flow lasts. -/
def Safe (t : Tour) : Prop :=
  t.session.tutorial = "dismissed" ∨ ∀ flow, t.session.flow = some flow → flow.Lasts

variable {record : Record}

theorem safe_of_within (h : resume .builtin record = .ok t)
    (within : ∀ next, t.Leads next → ∀ flow, next.session.flow = some flow →
      Flow.Within flow.feature flow.history) : t.Safe := by
  have fits := fits_of_resume h
  by_cases dismissed : t.session.tutorial = "dismissed"
  · exact .inl dismissed
  · refine .inr fun flow hf => ?_
    have here : At .builtin t.session.tutorial flow t :=
      ⟨registry_of_resume h, rfl, fits.plan, hf⟩
    obtain ⟨next, leads, active⟩ := here.activate fits.tutorial dismissed
    exact active.lasts (fits.flow flow hf).2 fun last leadsOn =>
      within last (leads.trans leadsOn)

theorem Safe.sound (h : t.Safe) (registry : t.registry = .builtin)
    (fits : t.session.Fits .builtin) : Sound .builtin Flow.Held t :=
  sound_of_fits registry fits fun flow hf =>
    ⟨(fits.flow flow hf).2, h.imp_right fun lasting => lasting flow hf⟩

theorem Safe.fits_run (h : t.Safe) (resumed : resume .builtin record = .ok t)
    (ops : List Operation) : (t.run ops).session.Fits .builtin := by
  have sound := h.sound (registry_of_resume resumed) (fits_of_resume resumed)
  exact (sound.run Flow.keeps_held ops).fits fun _ _ held => held.1

/-- An accepted record is safe to resume exactly if the tutorial is dismissed or the flow
lasts: then every run without a fresh start is accepted again, and otherwise there is a run
whose history outgrows the steps. -/
theorem resumed_run_iff (h : resume .builtin record = .ok t) :
    ((∀ ops : List Operation, (∀ op ∈ ops, op ≠ .restart ∧ op ≠ .reset) →
        (t.run ops).session.record.defect? .builtin = none) ↔ t.Safe) ∧
    ((∀ ops : List Operation, (∀ op ∈ ops, op ≠ .restart ∧ op ≠ .reset) →
        ∀ flow, (t.run ops).session.flow = some flow →
          flow.history.length ≤ totalSteps flow.feature flow.history) ↔ t.Safe) := by
  refine ⟨⟨fun accepted => ?_, fun safe ops _ => ?_⟩, fun within => ?_, fun safe ops _ => ?_⟩
  · refine safe_of_within h ?_
    rintro next ⟨ops, carriesOn, rfl⟩ flow hf
    have fits := Session.defect?_record_eq_none_iff.1 (accepted ops carriesOn)
    exact (fits.flow flow hf).2.within
  · exact Session.defect?_record_eq_none_iff.2 (safe.fits_run h ops)
  · refine safe_of_within h ?_
    rintro next ⟨ops, carriesOn, rfl⟩
    exact within ops carriesOn
  · intro flow hf
    exact ((safe.fits_run h ops).flow flow hf).2.within

/-- A history that no run records, at the last screen of its flow. -/
def strangeRecord : Record where
  tutorial := "paused"
  machine := some .policies
  state := some "others"
  history := ["others", "idle", "others", "idle", "others"]
  plan := [.policies]

theorem resumed_run_strangeRecord :
    resume .builtin strangeRecord = .ok ⟨.builtin, strangeRecord.session, []⟩ ∧
      ∀ ops : List Operation, (∀ op ∈ ops, op ≠ .restart ∧ op ≠ .reset) →
        ((Tour.mk .builtin strangeRecord.session []).run ops).session.record.defect? .builtin =
          none := by
  have accepted : strangeRecord.defect? .builtin = none := by decide +kernel
  have resumed : resume .builtin strangeRecord = .ok ⟨.builtin, strangeRecord.session, []⟩ :=
    resume_eq_ok_iff.2 ⟨accepted, rfl⟩
  refine ⟨resumed, (resumed_run_iff resumed).1.2 (.inr fun flow hf => ?_)⟩
  cases Option.some.inj hf
  decide +kernel

/-- Four visits to the first screen, which is as long as the flow may get. -/
def crowdedRecord : Record where
  tutorial := "active.feature"
  machine := some .authentication
  state := some "idle"
  history := ["idle", "idle", "idle", "idle"]
  plan := [.authentication]

/-- One event after it was resumed, a session may be refused. -/
theorem crowdedRecord_refused :
    resume .builtin crowdedRecord = .ok ⟨.builtin, crowdedRecord.session, []⟩ ∧
      ((Tour.mk .builtin crowdedRecord.session []).run
        [.flow none "CONTINUE" none]).session.record.defect? .builtin =
          some (.historyTooLong 5 4 .authentication) := by
  have accepted : crowdedRecord.defect? .builtin = none := by decide +kernel
  exact ⟨resume_eq_ok_iff.2 ⟨accepted, rfl⟩, by decide +kernel⟩

end Tour

end GuidedTour
