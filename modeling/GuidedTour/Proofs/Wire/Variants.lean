import GuidedTour.Proofs.Json.Nested
import GuidedTour.Wire.Payload

/-! The same value, sent otherwise. Senders may write the fields of an object in any order, and
add fields that the reader does not know. The tag and the known fields of such an object are those
of the object as it is written here. -/
namespace GuidedTour.Wire

/-- Neither a number nor made of other values. -/
def isScalar : Json → Bool
  | .text _ | .flag _ | .null => true
  | _ => false

/-- The written fields in any order, and among them others of other names. -/
def Rearranged (written fields : List (String × Json)) : Prop :=
  ∃ extras, fields.Perm (written ++ extras) ∧
    ∀ e ∈ extras, e.1 ∉ written.map (·.1) ∧ isScalar e.2 = true

/-- An object with its fields rearranged. -/
def Variant (j other : Json) : Prop :=
  ∃ written fields, j = .object written ∧ other = .object fields ∧ Rearranged written fields

theorem Variant.refl (written : List (String × Json)) :
    Variant (.object written) (.object written) :=
  ⟨written, written, rfl, rfl, [], by simp, by simp⟩

variable {own fields read : List (String × Json)} {name tag word : String} {value : Json}

/-- A name that comes once is looked up wherever it stands. -/
theorem field?_of_perm (perm : read.Perm own) (nodup : (own.map (·.1)).Nodup)
    (mem : (name, value) ∈ own) : field? read name = some value := by
  obtain ⟨front, back, split⟩ := List.append_of_mem (perm.mem_iff.2 mem)
  have once := (perm.map (·.1)).nodup_iff.2 nodup
  rw [split, List.map_append, List.nodup_append] at once
  refine List.lookup_eq_some_iff.2 ⟨front, back, split, fun e before => ?_⟩
  have other := once.2.2 _ (List.mem_map_of_mem before) _ List.mem_cons_self
  simpa using other.symm

theorem length_filter_le_one (nodup : (own.map (·.1)).Nodup) (name : String) :
    (own.filter (·.1 == name)).length ≤ 1 := by
  have once := List.nodup_iff_count.1 nodup name
  rw [List.count, List.countP_map, List.countP_eq_length_filter] at once
  exact once

namespace Rearranged

/-- The tag is found wherever it stands, and the fields beside it are rearranged too. -/
theorem tagged? (h : Rearranged ((tag, .text word) :: own) fields)
    (fresh : tag ∉ own.map (·.1)) : ∃ rest,
      Payload.tagged? tag (.object fields) = some (word, .named rest) ∧ Rearranged own rest := by
  obtain ⟨extras, perm, unknown⟩ := h
  have other (e : String × Json) (mem : e ∈ own ++ extras) : e.1 ≠ tag := by
    rintro rfl
    obtain mem | mem := List.mem_append.1 mem
    · exact fresh (List.mem_map_of_mem mem)
    · exact (unknown e mem).1 List.mem_cons_self
  have only : fields.filter (·.1 == tag) = [(tag, .text word)] := by
    rw [← List.perm_singleton]
    refine (perm.filter _).trans (.of_eq ?_)
    rw [List.cons_append, List.filter_cons_of_pos (by simp), List.filter_eq_nil_iff.2]
    simpa using other
  have beside : (fields.filter (·.1 != tag)).Perm (own ++ extras) := by
    refine (perm.filter _).trans (.of_eq ?_)
    rw [List.cons_append, List.filter_cons_of_neg (by simp), List.filter_eq_self]
    simpa using other
  refine ⟨fields.filter (·.1 != tag), ?_, extras, beside, fun e mem => ?_⟩
  · simp only [Payload.tagged?, only]
  · obtain ⟨unknown, scalar⟩ := unknown e mem
    exact ⟨fun known => unknown (List.mem_cons_of_mem _ known), scalar⟩

/-- The declared fields are read, each with its value. -/
theorem read? (h : Rearranged own fields) (declared : List Slot)
    (nodup : (own.map (·.1)).Nodup) (names : declared.map (·.name) = own.map (·.1)) : ∃ read,
      (Payload.named fields).read? declared = some read ∧
        ∀ e ∈ own, field? read e.1 = some e.2 := by
  obtain ⟨extras, perm, unknown⟩ := h
  have declares (name : String) : declared.any (·.name == name) = true ↔
      name ∈ own.map (·.1) := by
    rw [← names]
    simp
  have once : (declared.all fun slot => (fields.filter (·.1 == slot.name)).length ≤ 1) = true := by
    rw [List.all_eq_true]
    intro slot mem
    have known : slot.name ∈ own.map (·.1) := names ▸ List.mem_map_of_mem mem
    have absent : extras.filter (·.1 == slot.name) = [] := by
      rw [List.filter_eq_nil_iff]
      intro e mem same
      exact (unknown e mem).1 (eq_of_beq same ▸ known)
    rw [decide_eq_true_eq, (perm.filter _).length_eq, List.filter_append, absent, List.append_nil]
    exact length_filter_le_one nodup slot.name
  have kept : (fields.filter fun e => declared.any (·.name == e.1)).Perm own := by
    refine (perm.filter _).trans (.of_eq ?_)
    rw [List.filter_append, List.filter_eq_self.2, List.filter_eq_nil_iff.2, List.append_nil]
    · intro e mem known
      exact (unknown e mem).1 ((declares e.1).1 known)
    · intro e mem
      exact (declares e.1).2 (List.mem_map_of_mem mem)
  refine ⟨_, ?_, fun e mem => field?_of_perm kept nodup mem⟩
  rw [Payload.read?, if_pos once]

end Rearranged

theorem nested_of_isScalar {n : Nat} (h : isScalar value = true) : Json.Nested n value := by
  cases value with
  | null => exact .null
  | flag b => exact .flag
  | text s => exact .text
  | _ => cases h

/-- A variant is nested no deeper. -/
theorem Variant.nested {j other : Json} {n : Nat} (h : Variant j other) (nested : j.Nested n) :
    other.Nested n := by
  obtain ⟨written, fields, rfl, rfl, extras, perm, unknown⟩ := h
  cases nested with
  | object shallow inner =>
    refine .object shallow fun e mem => ?_
    obtain mem | mem := List.mem_append.1 (perm.mem_iff.1 mem)
    · exact inner e mem
    · exact nested_of_isScalar (unknown e mem).2

end GuidedTour.Wire
