import GuidedTour.Proofs.Snapshot.Reading
import GuidedTour.Text.Numeral
import GuidedTour.Text.Percent

/-! Text that says what it stands for: a number that is written in decimal digits is read as that
number, and text without a percent sign is its own decoding. -/
namespace GuidedTour.Text

variable {n largest : Nat} {cs : List Char}

theorem toList_toString (n : Nat) : (toString n).toList = Nat.toDigits 10 n := by
  rw [Nat.toString_eq_repr, Nat.repr_eq_ofList_toDigits, String.toList_ofList]

theorem isDigit_of_mem_toString {c : Char} (h : c ∈ (toString n).toList) : c.isDigit = true := by
  rw [toList_toString] at h
  exact Nat.isDigit_of_mem_toDigits (by decide) (by decide) h

theorem notMem_toString {c : Char} (h : c.isDigit = false) : c ∉ (toString n).toList :=
  fun mem => absurd (isDigit_of_mem_toString mem) (by simp [h])

theorem digits?_toString (n : Nat) : digits? (toString n).toList = some n := by
  have digits : (toString n).toList.all Char.isDigit = true :=
    List.all_eq_true.2 fun c => isDigit_of_mem_toString
  have some : (toString n).toList.isEmpty = false := by
    rw [toList_toString, List.isEmpty_eq_false_iff]
    exact Nat.toDigits_ne_nil
  have value : (toString n).toList.foldl (fun n c => n * 10 + (c.toNat - '0'.toNat)) 0 = n := by
    simp only [toList_toString, Nat.mul_comm _ 10]
    exact Nat.ofDigitChars_toDigits (by decide) (by decide)
  rw [digits?, digits, some, value]
  rfl

theorem unsigned?_toString (h : n ≤ largest) :
    unsigned? largest (toString n).toList = some n := by
  have unsigned : (toString n).toList.head? ≠ some '+' := fun head =>
    notMem_toString (by decide) (List.mem_of_head? head)
  rw [unsigned?, if_neg unsigned, digits?_toString]
  simp [h]

namespace Percent

theorem charBytes_append (c : Char) (cs : List Char) :
    charBytes c ++ (String.ofList cs).toUTF8.data.toList =
      (String.ofList (c :: cs)).toUTF8.data.toList := by
  rw [String.ofList_cons]
  simp [charBytes]

theorem bytes_cons {c : Char} (h : c ≠ '%') (cs : List Char) :
    bytes (c :: cs) = charBytes c ++ bytes cs := by
  match cs with
  | [] => rw [bytes, bytes, List.append_nil]
  | [d] => rw [bytes, bytes]
  | d :: e :: rest => simp only [bytes, h, if_false]

theorem bytes_plain (plain : '%' ∉ cs) : bytes cs = (String.ofList cs).toUTF8.data.toList := by
  induction cs with
  | nil => rfl
  | cons c cs ih =>
    rw [List.mem_cons, not_or] at plain
    rw [bytes_cons (Ne.symm plain.1), ih plain.2, charBytes_append]

theorem decode?_plain (plain : '%' ∉ cs) : decode? cs = some (String.ofList cs) := by
  rw [decode?, bytes_plain plain]
  exact Snapshot.fromUTF8?_toUTF8 _

end Percent

end GuidedTour.Text
