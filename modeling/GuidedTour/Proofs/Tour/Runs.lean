import Mathlib.Data.List.Induction
import GuidedTour.Tour.Operation

/-! What happened on a run, and when. A run that is one operation longer divides at its last
operation, or where the shorter one does; so what happened last is known from step to step. -/
namespace GuidedTour

theorem concat_eq_append_cons_iff {α : Type} {xs before after : List α} {x y : α} :
    xs ++ [x] = before ++ y :: after ↔
      (after = [] ∧ xs = before ∧ x = y) ∨
        ∃ rest, after = rest ++ [x] ∧ xs = before ++ y :: rest := by
  constructor
  · intro split
    obtain rfl | ⟨rest, last, rfl⟩ := List.eq_nil_or_concat after
    · obtain ⟨rfl, same⟩ := List.append_inj' split rfl
      exact .inl ⟨rfl, rfl, (List.cons.inj same).1⟩
    · rw [List.concat_eq_append, ← List.cons_append, ← List.append_assoc] at split
      obtain ⟨rfl, same⟩ := List.append_inj' split rfl
      obtain rfl := (List.cons.inj same).1
      exact .inr ⟨rest, List.concat_eq_append, rfl⟩
  · rintro (⟨rfl, rfl, rfl⟩ | ⟨rest, rfl, rfl⟩)
    · rfl
    · simp

namespace Tour

variable {t u : Tour} {op : Operation} {ops since : List Operation}
  {P : Tour → Operation → Prop}

theorem run_concat (t : Tour) (ops : List Operation) (op : Operation) :
    t.run (ops ++ [op]) = ((t.run ops).step op).2 :=
  run_append t ops [op]

/-- On a run it holds of no operation. -/
def Never (P : Tour → Operation → Prop) (t : Tour) (ops : List Operation) : Prop :=
  ∀ before op after, ops = before ++ op :: after → ¬P (t.run before) op

/-- On a run it held last of an operation on this tour, with these operations since. -/
def Latest (P : Tour → Operation → Prop) (t : Tour) (ops : List Operation) (u : Tour)
    (op : Operation) (since : List Operation) : Prop :=
  ∃ before, ops = before ++ op :: since ∧ t.run before = u ∧ P u op ∧ Never P (u.step op).2 since

theorem Never.nil : Never P t [] := by
  intro before op after split
  simp at split

theorem never_concat : Never P t (ops ++ [op]) ↔ Never P t ops ∧ ¬P (t.run ops) op := by
  constructor
  · intro never
    exact ⟨fun before o after split => never before o (after ++ [op]) (by simp [split]),
      never ops op [] rfl⟩
  · rintro ⟨never, not⟩ before o after split
    obtain ⟨rfl, rfl, rfl⟩ | ⟨rest, rfl, shorter⟩ := concat_eq_append_cons_iff.1 split
    · exact not
    · exact never before o rest shorter

theorem Latest.last (h : P (t.run ops) op) : Latest P t (ops ++ [op]) (t.run ops) op [] :=
  ⟨ops, rfl, rfl, h, .nil⟩

theorem Latest.run (h : Latest P t ops u op since) : (u.step op).2.run since = t.run ops := by
  obtain ⟨before, rfl, rfl, -⟩ := h
  exact (run_append t before (op :: since)).symm

theorem Latest.concat {later : Operation} (h : Latest P t ops u op since)
    (not : ¬P (t.run ops) later) : Latest P t (ops ++ [later]) u op (since ++ [later]) := by
  have run := h.run
  obtain ⟨before, rfl, rfl, holds, never⟩ := h
  refine ⟨before, by simp, rfl, holds, never_concat.2 ⟨never, ?_⟩⟩
  rw [run]
  exact not

theorem never_or_latest (P : Tour → Operation → Prop) (t : Tour) (ops : List Operation) :
    Never P t ops ∨ ∃ u op since, Latest P t ops u op since := by
  induction ops using List.reverseRecOn with
  | nil => exact .inl .nil
  | append_singleton ops op ih =>
    by_cases holds : P (t.run ops) op
    · exact .inr ⟨_, _, _, .last holds⟩
    · obtain never | ⟨u, o, since, latest⟩ := ih
      · exact .inl (never_concat.2 ⟨never, holds⟩)
      · exact .inr ⟨_, _, _, latest.concat holds⟩

end Tour

end GuidedTour
