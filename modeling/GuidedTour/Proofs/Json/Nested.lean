import GuidedTour.Proofs.Json.Written

/-! Values of no expected shape. A reader that takes anything takes a value without numbers back
from its compact text, whatever its fields are called and in whatever order they stand, unless
lists and objects are nested too deeply. -/
namespace GuidedTour.Json

/-- A value that stands inside of so many open lists and objects, and holds no number. -/
inductive Nested : Nat → Json → Prop where
  | null {n} : Nested n .null
  | flag {n b} : Nested n (.flag b)
  | text {n s} : Nested n (.text s)
  | list {n items} : n < maxDepth → (∀ item ∈ items, Nested (n + 1) item) → Nested n (.list items)
  | object {n fields} : n < maxDepth → (∀ e ∈ fields, Nested (n + 1) e.2) →
    Nested n (.object fields)

variable {n : Nat} {j : Json} {stack : List Frame} {fields read : List (String × Json)}

theorem Nested.numberless (h : Nested n j) : j.Numberless := by
  induction h with
  | null | flag | text => trivial
  | list _ _ ih => exact numberlessItems ih
  | object _ _ ih => exact numberlessFields ih

theorem read_anyField {phase : Phase} {key name : String} {value : Json}
    (taken : Taken (.object name read :: stack) .any value)
    (starts : ∀ token, Reading.step ⟨phase, .object key read :: stack⟩ (.text token) =
      readKey (.object key read :: stack) token) :
    (.text (some name) :: .colon :: value.toTokens).foldlM Reading.step
        ⟨phase, .object key read :: stack⟩ =
      .ok ⟨.afterField, .object name ((name, value) :: read) :: stack⟩ := by
  rw [List.foldlM_cons, starts]
  exact taken.follow fun _ _ => rfl

theorem read_moreAnyFields
    (taken : ∀ e ∈ fields, ∀ key read, Taken (.object key read :: stack) .any e.2)
    (key : String) (read : List (String × Json)) :
    (moreFieldTokens fields).foldlM Reading.step ⟨.afterField, .object key read :: stack⟩ =
      .ok (deliver (some (.object (read.reverse ++ fields))) stack) := by
  induction fields generalizing key read with
  | nil =>
    rw [List.append_nil]
    rfl
  | cons e rest ih =>
    obtain ⟨name, value⟩ := e
    have next : (.text (some name) :: .colon :: value.toTokens).foldlM Reading.step
        ⟨.nextKey, .object key read :: stack⟩ =
          .ok ⟨.afterField, .object name ((name, value) :: read) :: stack⟩ :=
      read_anyField (taken _ List.mem_cons_self name read) fun _ => rfl
    refine (foldlM_append_ok next).trans
      ((ih (fun e mem => taken e (List.mem_cons_of_mem _ mem)) name _).trans ?_)
    simp

theorem taken_object (shallow : stack.length < maxDepth)
    (taken : ∀ e ∈ fields, ∀ key read, Taken (.object key read :: stack) .any e.2) :
    Taken stack .any (.object fields) := by
  have opened : startValue stack .any .openObject = .ok ⟨.firstKey, .object "" [] :: stack⟩ := by
    rw [startValue, openFrame, if_pos shallow]
  cases fields with
  | nil =>
    refine ⟨.openObject, [.closeObject], rfl, by simp, ?_⟩
    rw [opened]
    rfl
  | cons e rest =>
    obtain ⟨name, value⟩ := e
    refine ⟨.openObject, .text (some name) :: .colon :: (value.toTokens ++ moreFieldTokens rest),
      rfl, by simp, ?_⟩
    have first : (.text (some name) :: .colon :: value.toTokens).foldlM Reading.step
        ⟨.firstKey, .object "" [] :: stack⟩ =
          .ok ⟨.afterField, .object name [(name, value)] :: stack⟩ :=
      read_anyField (taken _ List.mem_cons_self name []) fun _ => rfl
    rw [opened]
    exact (foldlM_append_ok first).trans
      (read_moreAnyFields (fun e mem => taken e (List.mem_cons_of_mem _ mem)) name _)

theorem Nested.taken (h : Nested n j) (depth : stack.length = n) : Taken stack .any j := by
  induction h generalizing stack with
  | null | flag | text => exact ⟨_, _, rfl, by simp, rfl⟩
  | list shallow _ ih =>
    have opened : startValue stack .any .openList =
        .ok ⟨.firstItem, .items .any [] :: stack⟩ := by
      rw [startValue, openFrame, if_pos (depth ▸ shallow)]
    exact taken_list opened fun item mem read => ih item mem (by simp [depth])
  | object shallow _ ih =>
    exact taken_object (depth ▸ shallow) fun e mem key read => ih e mem (by simp [depth])

/-- What is written is read again. -/
theorem parse?_compact (h : Nested 0 j) : parse? j.compact = some j := by
  have taken : j.toTokens.foldlM Reading.step ⟨.value .any, []⟩ = .ok ⟨.done j, []⟩ :=
    (h.taken rfl).follow fun _ _ => rfl
  unfold parse? readFrom
  rw [tokens_compact h.numberless, taken]
  rfl

end GuidedTour.Json
