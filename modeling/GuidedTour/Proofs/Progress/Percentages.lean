import GuidedTour.Progress

/-! Percentages. A product that leaves the word stays at its largest count, so of very large
numbers too little is reported, but never too much. If one of the two numbers is small the
percentage is exact: either the product stays within the word, or the part exceeds the whole by
so much that the figure stops at 100 both ways. The counts of the screens are small. -/
namespace GuidedTour

theorem totalSteps_bounds (f : Feature) (history : List String) :
    0 < totalSteps f history ∧ totalSteps f history ≤ 8 := by
  cases f with
  | secrets =>
    unfold totalSteps
    cases Branch.detect history <;> decide
  | _ => simp [totalSteps]

namespace Progress

variable {part whole : Nat}

theorem percentOf_of_pos (pos : 0 < whole) (part : Nat) :
    percentOf part whole = min (min (part * 100) maxCount / whole) 100 :=
  if_neg (Nat.ne_of_gt pos)

theorem percentOf_le (part whole : Nat) : percentOf part whole ≤ 100 := by
  unfold percentOf
  split
  · exact Nat.le_refl 100
  · exact Nat.min_le_right _ _

theorem percentOf_le_exact (pos : 0 < whole) (part : Nat) :
    percentOf part whole ≤ min 100 (100 * part / whole) := by
  have product : min (part * 100) maxCount / whole ≤ 100 * part / whole := by
    rw [Nat.mul_comm 100]
    exact Nat.div_le_div_right (Nat.min_le_left _ _)
  rw [percentOf_of_pos pos]
  omega

theorem percentOf_eq_exact (pos : 0 < whole)
    (small : part ≤ maxCount / 100 ∨ whole ≤ maxCount / 100) :
    percentOf part whole = min 100 (100 * part / whole) := by
  rw [percentOf_of_pos pos, Nat.mul_comm part]
  by_cases fits : 100 * part ≤ maxCount
  · rw [Nat.min_eq_left fits, Nat.min_comm]
  · -- The part is too large for the product, so the whole is the small one.
    have capped : 100 ≤ min (100 * part) maxCount / whole :=
      (Nat.le_div_iff_mul_le pos).2 (by omega)
    have exceeds : 100 ≤ 100 * part / whole := (Nat.le_div_iff_mul_le pos).2 (by omega)
    rw [Nat.min_eq_right capped, Nat.min_eq_left exceeds]

theorem percentOf_le_of_part_le {more : Nat} (h : part ≤ more) (whole : Nat) :
    percentOf part whole ≤ percentOf more whole := by
  obtain rfl | pos := Nat.eq_zero_or_pos whole
  · exact Nat.le_refl _
  · have quotient : min (part * 100) maxCount / whole ≤ min (more * 100) maxCount / whole :=
      Nat.div_le_div_right (by omega)
    rw [percentOf_of_pos pos, percentOf_of_pos pos]
    omega

theorem percentOf_le_of_whole_le {larger : Nat} (pos : 0 < whole) (h : whole ≤ larger)
    (part : Nat) : percentOf part larger ≤ percentOf part whole := by
  have quotient : min (part * 100) maxCount / larger ≤ min (part * 100) maxCount / whole :=
    Nat.div_le_div_left h pos
  rw [percentOf_of_pos pos, percentOf_of_pos (Nat.lt_of_lt_of_le pos h)]
  omega

/-- What is counted beyond the whole does not show. -/
theorem percentOf_eq_div (pos : 0 < whole) (small : whole ≤ maxCount / 100) (part : Nat) :
    percentOf part whole = 100 * min part whole / whole := by
  rw [percentOf_eq_exact pos (.inr small)]
  obtain within | beyond := Nat.le_total part whole
  · have quotient : 100 * part / whole ≤ 100 :=
      Nat.div_le_of_le_mul (by rw [Nat.mul_comm whole]; exact Nat.mul_le_mul_left 100 within)
    rw [Nat.min_eq_left within, Nat.min_eq_right quotient]
  · have quotient : 100 ≤ 100 * part / whole :=
      (Nat.le_div_iff_mul_le pos).2 (Nat.mul_le_mul_left 100 beyond)
    rw [Nat.min_eq_right beyond, Nat.mul_div_cancel _ pos, Nat.min_eq_left quotient]

theorem percentOf_eq_hundred_iff (pos : 0 < whole) (small : whole ≤ maxCount / 100) :
    percentOf part whole = 100 ↔ whole ≤ part := by
  have quotient : 100 ≤ 100 * part / whole ↔ whole ≤ part := by
    rw [Nat.le_div_iff_mul_le pos]
    omega
  rw [percentOf_eq_exact pos (.inr small)]
  omega

/-- The percentage is that of the steps shown, and it is full on the last step and no earlier. -/
structure Position.Exact (p : Position) : Prop where
  percentage : p.percentage = 100 * p.step / p.total
  full : p.percentage = 100 ↔ p.step = p.total

theorem exact_of_counts (pos : 0 < whole) (small : whole ≤ maxCount / 100) (part : Nat) :
    Position.Exact ⟨min part whole, whole, percentOf part whole⟩ where
  percentage := percentOf_eq_div pos small part
  full := by
    rw [percentOf_eq_hundred_iff pos small]
    dsimp only
    omega

theorem exact_of_current {r : Record} {f : Feature} {p : Position}
    (h : current r = some (f, p)) : p.Exact := by
  obtain ⟨feature, -, same⟩ := Option.map_eq_some_iff.1 h
  obtain ⟨rfl, rfl⟩ := Prod.mk.inj same
  obtain ⟨pos, few⟩ := totalSteps_bounds feature r.history
  exact exact_of_counts pos (Nat.le_trans few (by decide)) _

theorem exact_of_initialization {r : Record} {p : Position} (h : initialization r = some p) :
    p.Exact := by
  obtain ⟨index, found, rfl⟩ := Option.map_eq_some_iff.1 h
  have within : index + 1 ≤ initSteps.length := (List.findIdx?_eq_some_iff_findIdx_eq.1 found).1
  have exact : Position.Exact ⟨min (index + 1) initSteps.length, initSteps.length, _⟩ :=
    exact_of_counts (by decide) (by decide) (index + 1)
  rwa [Nat.min_eq_left within] at exact

/-- A percentage of two numbers within a word is at most 100 and at most the exact one, rounded
down; it is exact if one of them is at most a hundredth of the largest count. A larger part never
lowers it, and a larger whole never raises it. So the figures of every written session are exact,
however long its history: the percentage of the active flow, and that of the initialization, is
that of the steps shown, and 100 just on the last one. -/
theorem percentages_exact :
    (∀ part whole, percentOf part whole ≤ 100 ∧ percentOf part 0 = 100 ∧
      (0 < whole → percentOf part whole ≤ min 100 (100 * part / whole) ∧
        (part ≤ maxCount / 100 ∨ whole ≤ maxCount / 100 →
          percentOf part whole = min 100 (100 * part / whole)))) ∧
    (∀ part more whole, part ≤ more → percentOf part whole ≤ percentOf more whole) ∧
    (∀ part whole larger, 0 < whole → whole ≤ larger →
      percentOf part larger ≤ percentOf part whole) ∧
    ∀ r : Record,
      (r.machine = none → current r = none) ∧
      (∀ f ∈ r.machine, ∃ p, current r = some (f, p) ∧ p.total = totalSteps f r.history ∧
        p.step = min r.history.length p.total ∧
        p.percentage = 100 * p.step / p.total ∧ (p.percentage = 100 ↔ p.step = p.total)) ∧
      ∀ p ∈ initialization r,
        p.percentage = 100 * p.step / p.total ∧ (p.percentage = 100 ↔ p.step = p.total) := by
  refine ⟨fun part whole => ⟨percentOf_le part whole, rfl, fun pos => ?_⟩,
    fun _ _ whole h => percentOf_le_of_part_le h whole,
    fun part _ _ pos h => percentOf_le_of_whole_le pos h part, fun r => ⟨?_, ?_, ?_⟩⟩
  · exact ⟨percentOf_le_exact pos part, percentOf_eq_exact pos⟩
  · intro idle
    rw [current, idle]
    rfl
  · intro f active
    have shown : current r = some (f, _) := congrArg (Option.map _) active
    have exact := exact_of_current shown
    exact ⟨_, shown, rfl, rfl, exact.percentage, exact.full⟩
  · intro p shown
    have exact := exact_of_initialization shown
    exact ⟨exact.percentage, exact.full⟩

/-- The largest count out of itself: the product stays there too, and one percent is left. -/
example : percentOf maxCount maxCount = 1 := by decide

end Progress

end GuidedTour
