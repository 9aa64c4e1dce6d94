import Mathlib.Data.List.Lex
import Mathlib.Data.Char
import Mathlib.Data.String.Basic

/-! The order of names. Text is compared character by character, and names are listed in the
order of the bytes of their UTF-8 form. The two are one order: of two characters the later one
has the bytes that come later, however many they are, and neither's bytes begin the other's. -/
namespace GuidedTour.Text

/-- The bytes of a text in UTF-8, as numbers. -/
def bytes (s : String) : List ℕ := s.toUTF8.data.toList.map UInt8.toNat

def charBytes (c : Char) : List ℕ := (String.utf8EncodeChar c).map UInt8.toNat

theorem bytes_eq (s : String) : bytes s = s.toList.flatMap charBytes := by
  have encoded : s.toUTF8.data.toList = s.toList.flatMap String.utf8EncodeChar := by
    change s.toByteArray.data.toList = _
    rw [← String.utf8Encode_toList]
    simp [List.utf8Encode]
  unfold bytes
  rw [encoded, List.map_flatMap]
  rfl

theorem toNat_lt (c : Char) : c.toNat < 1114112 := by
  obtain low | high := c.valid
  · exact low.trans (by decide)
  · exact high.2

/-- The number of a character in digits to the base 64, the first of them marked with their
count. -/
theorem charBytes_eq (c : Char) : charBytes c =
    if c.toNat ≤ 127 then [c.toNat]
    else if c.toNat ≤ 2047 then [c.toNat / 64 + 192, c.toNat % 64 + 128]
    else if c.toNat ≤ 65535 then
      [c.toNat / 64 / 64 + 224, c.toNat / 64 % 64 + 128, c.toNat % 64 + 128]
    else
      [c.toNat / 64 / 64 / 64 + 240, c.toNat / 64 / 64 % 64 + 128, c.toNat / 64 % 64 + 128,
        c.toNat % 64 + 128] := by
  have bound := toNat_lt c
  unfold charBytes String.utf8EncodeChar
  simp only [Char.toNat_val]
  split_ifs <;>
    simp only [List.map_cons, List.map_nil, UInt8.toNat_ofNat', List.cons.injEq, and_true] <;>
    omega

/-- The difference shows in the bytes of the two characters, whatever follows. -/
theorem charBytes_append_lt {c d : Char} (h : c < d) (xs ys : List ℕ) :
    charBytes c ++ xs < charBytes d ++ ys := by
  have less : c.toNat < d.toNat := h
  have bound := toNat_lt d
  rw [charBytes_eq, charBytes_eq]
  split_ifs <;>
    simp only [List.cons_append, List.nil_append, List.cons_lt_cons_iff] <;> omega

theorem flatMap_charBytes_lt {cs ds : List Char} (h : cs < ds) :
    cs.flatMap charBytes < ds.flatMap charBytes := by
  induction h with
  | @nil d ds =>
    have some : (d :: ds).flatMap charBytes ≠ [] := by simp [charBytes]
    obtain ⟨byte, rest, split⟩ := List.exists_cons_of_ne_nil some
    rw [split]
    exact List.nil_lt_cons byte rest
  | rel before => exact charBytes_append_lt before _ _
  | @cons c _ _ _ ih => exact List.append_left_lt ih

theorem bytes_strictMono : StrictMono bytes := by
  intro s t h
  rw [bytes_eq, bytes_eq]
  exact flatMap_charBytes_lt (String.lt_iff_toList_lt.1 h)

theorem bytes_lt_iff {s t : String} : bytes s < bytes t ↔ s < t := bytes_strictMono.lt_iff_lt

theorem bytes_inj {s t : String} : bytes s = bytes t ↔ s = t :=
  bytes_strictMono.injective.eq_iff

end GuidedTour.Text
