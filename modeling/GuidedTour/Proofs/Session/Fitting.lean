import GuidedTour.Tour.Basic

/-! What it means that a session fits a registry: the conditions that the check of a
written session goes through, one after the other. -/
namespace GuidedTour

/-- A flow that its machine, its history and its step count allow. -/
structure Flow.Fits (r : Registry) (flow : Flow) : Prop where
  state : (r.flow flow.feature).contains flow.state = true
  recordable : ∀ s ∈ flow.history,
    (r.flow flow.feature).contains s = true ∧ (r.flow flow.feature).isTerminal s = false
  ends : (r.flow flow.feature).isTerminal flow.state = false →
    flow.history.getLast? = some flow.state
  within : flow.history.length ≤ totalSteps flow.feature flow.history

structure Session.Fits (r : Registry) (s : Session) : Prop where
  tutorial : r.tutorial.contains s.tutorial = true
  plan : s.plan.Nodup
  flow : ∀ flow, s.flow = some flow → flow.feature ∈ s.plan ∧ flow.Fits r

namespace Record

theorem firstRepeated_eq_none_iff {seen plan : List Feature} :
    firstRepeated seen plan = none ↔ plan.Nodup ∧ ∀ f ∈ plan, f ∉ seen := by
  induction plan generalizing seen with
  | nil => simp [firstRepeated]
  | cons f rest ih =>
    by_cases hf : f ∈ seen
    · simp [firstRepeated, hf]
    · simp only [firstRepeated, List.contains_eq_mem, hf, decide_false, Bool.false_eq_true,
        ↓reduceIte, ih, List.nodup_cons]
      constructor
      · rintro ⟨nodup, fresh⟩
        refine ⟨⟨fun mem => fresh f mem List.mem_cons_self, nodup⟩, fun g mem => ?_⟩
        cases mem with
        | head => exact hf
        | tail _ mem => exact fun seen => fresh g mem (List.mem_cons_of_mem _ seen)
      · rintro ⟨⟨notMem, nodup⟩, fresh⟩
        refine ⟨nodup, fun g mem seen => ?_⟩
        cases seen with
        | head => exact notMem mem
        | tail _ seen => exact fresh g (List.mem_cons_of_mem _ mem) seen

theorem flowDefect?_eq_none_iff {r : Record} {reg : Registry} {feature : Feature}
    {state : String} : r.flowDefect? reg feature state = none ↔
      feature ∈ r.plan ∧ Flow.Fits reg ⟨feature, state, r.history⟩ := by
  unfold flowDefect?
  cases hs : (reg.flow feature).contains state with
  | false =>
    simp only [hs, Bool.not_false, ↓reduceIte, reduceCtorEq, false_iff]
    intro h
    have known := h.2.state
    rw [hs] at known
    cases known
  | true =>
    by_cases hp : feature ∈ r.plan
    · -- The first entry that cannot be recorded, if there is one, decides.
      cases hf : r.history.find? fun s =>
          !(reg.flow feature).contains s || (reg.flow feature).isTerminal s with
      | some s =>
        have bad := List.find?_some hf
        have mem := List.mem_of_find?_eq_some hf
        simp only [hs, hp, hf, Bool.not_true, Bool.false_eq_true, ↓reduceIte,
          List.contains_eq_mem, decide_true, reduceCtorEq, false_iff]
        intro h
        obtain ⟨known, lasting⟩ := h.2.recordable s mem
        simp [known, lasting] at bad
      | none =>
        have recordable : ∀ s ∈ r.history, (reg.flow feature).contains s = true ∧
            (reg.flow feature).isTerminal s = false := by
          intro s mem
          simpa using List.find?_eq_none.1 hf s mem
        simp only [hs, hp, hf, Bool.not_true, Bool.false_eq_true, ↓reduceIte,
          List.contains_eq_mem, decide_true, true_and, Bool.and_eq_true, Bool.not_eq_true',
          decide_eq_true_eq]
        split
        · rename_i elsewhere
          simp only [reduceCtorEq, false_iff]
          exact fun h => elsewhere.2 (h.ends elsewhere.1)
        · rename_i ends
          split
          · rename_i long
            simp only [reduceCtorEq, false_iff]
            exact fun h => Nat.not_le_of_lt long h.within
          · rename_i short
            simp only [true_iff]
            exact ⟨hs, recordable, fun lasting => Classical.not_not.1 fun ne =>
              ends ⟨lasting, ne⟩, Nat.le_of_not_lt short⟩
    · simp [hs, hp]

end Record

/-- The check of a written session passes exactly what fits. -/
theorem Session.defect?_record_eq_none_iff {s : Session} {r : Registry} :
    s.record.defect? r = none ↔ s.Fits r := by
  unfold Record.defect?
  cases ht : r.tutorial.contains s.tutorial with
  | false =>
    simp only [Session.record, ht, Bool.not_false, ↓reduceIte, reduceCtorEq, false_iff]
    intro h
    have known := h.tutorial
    rw [ht] at known
    cases known
  | true =>
    cases hr : Record.firstRepeated [] s.plan with
    | some f =>
      simp only [Session.record, ht, hr, Bool.not_true, Bool.false_eq_true, ↓reduceIte,
        reduceCtorEq, false_iff]
      intro h
      rw [Record.firstRepeated_eq_none_iff.2 ⟨h.plan, by simp⟩] at hr
      cases hr
    | none =>
      have nodup := (Record.firstRepeated_eq_none_iff.1 hr).1
      cases hf : s.flow with
      | none =>
        simp only [Session.record, ht, hr, hf, Bool.not_true, Bool.false_eq_true, ↓reduceIte,
          Option.map_none, Option.getD_none, List.isEmpty_nil, true_iff]
        exact ⟨ht, nodup, fun _ h => by rw [hf] at h; cases h⟩
      | some flow =>
        simp only [Session.record, ht, hr, hf, Bool.not_true, Bool.false_eq_true, ↓reduceIte,
          Option.map_some, Option.getD_some, Record.flowDefect?_eq_none_iff]
        constructor
        · intro h
          refine ⟨ht, nodup, fun active ha => ?_⟩
          rw [hf] at ha
          cases Option.some.inj ha
          exact h
        · intro h
          exact h.flow flow hf

theorem Tour.resume_eq_ok_iff {r : Registry} {record : Record} {t : Tour} :
    resume r record = .ok t ↔ record.defect? r = none ∧ t = ⟨r, record.session, []⟩ := by
  unfold resume
  cases record.defect? r with
  | none => simp [eq_comm]
  | some defect => simp

/-- A session that fits comes back from its record as it was. -/
theorem Tour.resume_record {r : Registry} {s : Session} (h : s.Fits r) :
    resume r s.record = .ok ⟨r, s, []⟩ := by
  rw [resume_eq_ok_iff, Record.session_record]
  exact ⟨Session.defect?_record_eq_none_iff.2 h, rfl⟩

theorem Tour.registry_of_resume {r : Registry} {record : Record} {t : Tour}
    (h : resume r record = .ok t) : t.registry = r := by
  rw [(resume_eq_ok_iff.1 h).2]

/-- What is resumed fits. -/
theorem Tour.fits_of_resume {r : Registry} {record : Record} {t : Tour}
    (h : resume r record = .ok t) : t.session.Fits r := by
  obtain ⟨accepted, rfl⟩ := resume_eq_ok_iff.1 h
  rw [← Session.defect?_record_eq_none_iff, Record.record_session accepted]
  exact accepted

end GuidedTour
