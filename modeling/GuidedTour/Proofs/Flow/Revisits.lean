import GuidedTour.Steps
import GuidedTour.Tour.Basic

/-! How visits change a history. A state visited for the first time is added; one visited
before cuts the history back to its first visit, so what stays is a front of what was
there. Along a list of visits the step count is checked after each of them. -/
namespace GuidedTour

namespace Flow

variable {f : Feature} {history states more : List String} {event state other : String}
  {terminal : Bool}

/-- The history after a visit that does not start it again. -/
def revisit (history : List String) (state : String) : List String :=
  if state ∈ history then history.takeWhile (· ≠ state) ++ [state] else history ++ [state]

/-- The history after some visits. -/
def revisits (history states : List String) : List String := states.foldl revisit history

/-- A history has no more entries than the flow has steps. -/
def Within (f : Feature) (history : List String) : Prop := history.length ≤ totalSteps f history

instance : Decidable (Within f history) := inferInstanceAs (Decidable (_ ≤ _))

/-- A history stays within the steps along some visits. -/
def KeepsWithin (f : Feature) (history : List String) : List String → Prop
  | [] => Within f history
  | state :: states => Within f history ∧ KeepsWithin f (revisit history state) states

instance decidableKeepsWithin : (history states : List String) →
    Decidable (KeepsWithin f history states)
  | history, [] => inferInstanceAs (Decidable (Within f history))
  | history, state :: states =>
    have := decidableKeepsWithin (revisit history state) states
    inferInstanceAs (Decidable (_ ∧ _))

theorem recordVisit_of_ne_reset (h : event ≠ "RESET") :
    Tour.recordVisit event state false history = revisit history state := by
  unfold Tour.recordVisit revisit
  rw [if_neg Bool.false_ne_true, if_neg h]
  simp only [List.contains_eq_mem, decide_eq_true_eq]

/-- A visit leaves the history alone, starts it again, or is added to it. -/
theorem recordVisit_cases (event state : String) (terminal : Bool) (history : List String) :
    terminal = true ∧ Tour.recordVisit event state terminal history = history ∨
      terminal = false ∧ (Tour.recordVisit event state terminal history = [state] ∨
        Tour.recordVisit event state terminal history = revisit history state) := by
  cases terminal with
  | true => exact .inl ⟨rfl, rfl⟩
  | false =>
    right
    by_cases reset : event = "RESET"
    · simp [Tour.recordVisit, reset]
    · simp [recordVisit_of_ne_reset reset]

theorem revisit_of_notMem (h : state ∉ history) : revisit history state = history ++ [state] := by
  unfold revisit
  rw [if_neg h]

theorem revisit_append_cons {front rest : List String} (h : state ∉ front) :
    revisit (front ++ state :: rest) state = front ++ [state] := by
  have stops : (front ++ state :: rest).takeWhile (· ≠ state) = front := by
    rw [List.takeWhile_append_of_pos (fun s mem => by
      simpa using fun (e : s = state) => h (e ▸ mem))]
    simp
  unfold revisit
  rw [if_pos (by simp), stops]

/-- The first visit to a state in a history. -/
theorem exists_first_visit (h : state ∈ history) : ∃ front rest,
    history = front ++ state :: rest ∧ state ∉ front ∧ revisit history state = front ++ [state] := by
  obtain ⟨front, rest, split, first⟩ := List.eq_append_cons_of_mem h
  refine ⟨front, rest, split, first, ?_⟩
  rw [split]
  exact revisit_append_cons first

theorem revisit_isPrefix (h : state ∈ history) : revisit history state <+: history := by
  obtain ⟨front, rest, split, first, after⟩ := exists_first_visit h
  refine ⟨rest, ?_⟩
  rw [after, split, List.append_assoc]
  rfl

theorem getLast?_revisit (history : List String) (state : String) :
    (revisit history state).getLast? = some state := by
  unfold revisit
  split <;> exact List.getLast?_concat

theorem mem_of_mem_revisit (h : other ∈ revisit history state) :
    other ∈ history ∨ other = state := by
  by_cases hs : state ∈ history
  · exact .inl ((revisit_isPrefix hs).subset h)
  · rw [revisit_of_notMem hs, List.mem_append, List.mem_singleton] at h
    exact h

theorem mem_of_mem_recordVisit (h : other ∈ Tour.recordVisit event state terminal history) :
    other ∈ history ∨ terminal = false ∧ other = state := by
  obtain ⟨-, same⟩ | ⟨lasting, starts | visits⟩ := recordVisit_cases event state terminal history
  · exact .inl (same ▸ h)
  · rw [starts, List.mem_singleton] at h
    exact .inr ⟨lasting, h⟩
  · rw [visits] at h
    exact (mem_of_mem_revisit h).imp_right fun e => ⟨lasting, e⟩

theorem revisit_nodup (h : history.Nodup) : (revisit history state).Nodup := by
  by_cases hs : state ∈ history
  · exact h.sublist (revisit_isPrefix hs).sublist
  · rw [revisit_of_notMem hs]
    simpa [List.nodup_append] using ⟨h, fun s mem => ne_of_mem_of_not_mem mem hs⟩

theorem recordVisit_nodup (h : history.Nodup) :
    (Tour.recordVisit event state terminal history).Nodup := by
  obtain ⟨-, same⟩ | ⟨-, starts | visits⟩ := recordVisit_cases event state terminal history
  · rwa [same]
  · rw [starts]
    simp
  · rw [visits]
    exact revisit_nodup h

theorem revisit_append_of_mem {front rest : List String} (h : state ∈ front) :
    revisit (front ++ rest) state = revisit front state := by
  obtain ⟨left, right, split, first, after⟩ := exists_first_visit h
  rw [after, split, List.append_assoc]
  exact revisit_append_cons first

/-- A visit to another state that keeps a first visit keeps what a return to it leaves. -/
theorem revisit_revisit (ne : other ≠ state) (h : other ∈ revisit history state) :
    revisit (revisit history state) other = revisit history other := by
  by_cases hs : state ∈ history
  · obtain ⟨rest, split⟩ := revisit_isPrefix hs
    rw [← revisit_append_of_mem h, split]
  · rw [revisit_of_notMem hs] at h ⊢
    have before : other ∈ history := by
      rw [List.mem_append, List.mem_singleton] at h
      exact h.resolve_right ne
    exact revisit_append_of_mem before

theorem revisit_revisit_self (history : List String) (state : String) :
    revisit (revisit history state) state = revisit history state := by
  by_cases hs : state ∈ history
  · obtain ⟨front, rest, split, first, after⟩ := exists_first_visit hs
    rw [after]
    exact revisit_append_cons first
  · rw [revisit_of_notMem hs]
    exact revisit_append_cons hs

theorem mem_of_mem_revisits (notMem : other ∉ states) (h : other ∈ revisits history states) :
    other ∈ history := by
  induction states generalizing history with
  | nil => exact h
  | cons state states ih =>
    rw [List.mem_cons, not_or] at notMem
    exact (mem_of_mem_revisit (ih notMem.2 h)).resolve_right notMem.1

theorem revisit_revisits (notMem : other ∉ states) (h : other ∈ revisits history states) :
    revisit (revisits history states) other = revisit history other := by
  induction states generalizing history with
  | nil => rfl
  | cons state states ih =>
    rw [List.mem_cons, not_or] at notMem
    have kept : other ∈ revisit history state := mem_of_mem_revisits notMem.2 h
    have goesOn := ih notMem.2 h
    rw [revisit_revisit notMem.1 kept] at goesOn
    exact goesOn

theorem revisits_append : revisits history (states ++ more) =
    revisits (revisits history states) more :=
  List.foldl_append

theorem KeepsWithin.first (h : KeepsWithin f history states) : Within f history := by
  cases states with
  | nil => exact h
  | cons state states => exact h.1

theorem KeepsWithin.last (h : KeepsWithin f history states) :
    Within f (revisits history states) := by
  induction states generalizing history with
  | nil => exact h
  | cons state states ih => exact ih h.2

theorem keepsWithin_append : KeepsWithin f history (states ++ more) ↔
    KeepsWithin f history states ∧ KeepsWithin f (revisits history states) more := by
  induction states generalizing history with
  | nil => exact ⟨fun h => ⟨h.first, h⟩, fun h => h.2⟩
  | cons state states ih =>
    simp only [List.cons_append, KeepsWithin, ih, and_assoc]
    rfl

theorem keepsWithin_iff : KeepsWithin f history states ↔
    ∀ front, front <+: states → Within f (revisits history front) := by
  constructor
  · rintro h front ⟨rest, rfl⟩
    exact (keepsWithin_append.1 h).1.last
  · intro h
    induction states generalizing history with
    | nil => exact h [] List.nil_prefix
    | cons state states ih =>
      refine ⟨h [] List.nil_prefix, ih fun front goesOn => h (state :: front) ?_⟩
      exact (List.prefix_cons_inj state).2 goesOn

theorem totalSteps_secrets (history : List String) : totalSteps .secrets history =
    if "list" ∈ history then 4
    else if "secret" ∈ history ∨ "encryption" ∈ history then 5
    else 7 := by
  unfold totalSteps Branch.detect
  by_cases hl : "list" ∈ history
  · simp [hl, Branch.marker, Branch.steps]
  · by_cases hs : "secret" ∈ history
    · simp [hl, hs, Branch.marker, Branch.steps]
    · by_cases he : "encryption" ∈ history
      · simp [hl, hs, he, Branch.marker, Branch.steps]
      · by_cases hr : "role" ∈ history <;>
          simp [hl, hs, he, hr, Branch.marker, Branch.steps]

/-- The steps of a flow can only grow as branches vanish from its history. -/
theorem totalSteps_of_subset {fewer : List String} (h : fewer ⊆ history) :
    totalSteps f history ≤ totalSteps f fewer := by
  cases f with
  | secrets =>
    have other : "secret" ∈ fewer ∨ "encryption" ∈ fewer →
        "secret" ∈ history ∨ "encryption" ∈ history := Or.imp (h ·) (h ·)
    rw [totalSteps_secrets, totalSteps_secrets]
    by_cases hl : "list" ∈ fewer
    · rw [if_pos hl]
      exact Nat.le_of_eq (if_pos (h hl))
    · by_cases ho : "secret" ∈ fewer ∨ "encryption" ∈ fewer
      · rw [if_neg hl, if_pos ho, if_pos (other ho)]
        split <;> decide
      · rw [if_neg hl, if_neg ho]
        split
        · decide
        · split <;> decide
  | _ => exact Nat.le_refl _

theorem Within.of_subset {fewer : List String} (h : Within f history) (sub : fewer ⊆ history)
    (le : fewer.length ≤ history.length) : Within f fewer :=
  Nat.le_trans le (Nat.le_trans h (totalSteps_of_subset sub))

end Flow

end GuidedTour
