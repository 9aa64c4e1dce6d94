import Mathlib.Algebra.Group.Nat.Defs
import GuidedTour.Proofs.Results
import GuidedTour.Snapshot.Codec

/-! Reading back what was written. A decoder reads a value from some bytes if it takes just
these from the front, whatever follows. Decoders in sequence read bytes in sequence, so the
laws of the parts give the law of the whole. A length is written in at most ten bytes,
hence only what is shorter than `2 ^ 64` bytes is read back. -/
namespace GuidedTour.Snapshot

/-- A sequence succeeds if its parts do, the second one on what the first one left. -/
theorem seq_eq_ok_iff {decode : Decoder α} {next : α → Decoder β} {bytes rest : List UInt8} {b : β} :
    (decode >>= next) bytes = .ok (b, rest) ↔
      ∃ a later, decode bytes = .ok (a, later) ∧ next a later = .ok (b, rest) := by
  change (decode bytes >>= fun read => next read.1 read.2) = _ ↔ _
  rw [bind_eq_ok_iff, Prod.exists]

theorem nextByte_eq_ok {bytes rest : List UInt8} {b : UInt8} (h : nextByte bytes = .ok (b, rest)) :
    bytes = b :: rest := by
  cases bytes with
  | nil => cases h
  | cons first bytes =>
    cases h
    rfl

/-- The decoder takes just these bytes and gives this value. -/
def Reads (decode : Decoder α) (bytes : List UInt8) (a : α) : Prop :=
  ∀ rest, decode (bytes ++ rest) = .ok (a, rest)

namespace Reads

theorem pure (a : α) : Reads (pure a) [] a := fun _ => rfl

theorem bind {decode : Decoder α} {next : α → Decoder β} {left right : List UInt8} {a : α} {b : β}
    (hl : Reads decode left a) (hr : Reads (next a) right b) :
    Reads (decode >>= next) (left ++ right) b := by
  intro rest
  rw [List.append_assoc]
  change (decode (left ++ (right ++ rest)) >>= fun read => next read.1 read.2) = _
  rw [hl]
  exact hr rest

/-- The last decoder of a sequence that takes a byte at all. -/
theorem last {decode : Decoder α} {next : α → Decoder β} {bytes : List UInt8} {a : α} {b : β}
    (hl : Reads decode bytes a) (hr : Reads (next a) [] b) : Reads (decode >>= next) bytes b := by
  have sequence := hl.bind hr
  rw [List.append_nil] at sequence
  exact sequence

theorem map {decode : Decoder α} {value : α → β} {bytes : List UInt8} {a : α}
    (h : Reads decode bytes a) : Reads (decode >>= fun a => Pure.pure (value a)) bytes (value a) :=
  h.last (pure (value a))

/-- A byte at the front. -/
theorem byte {next : UInt8 → Decoder α} {b : UInt8} {bytes : List UInt8} {a : α}
    (h : Reads (next b) bytes a) : Reads (nextByte >>= next) (b :: bytes) a := h

end Reads

namespace Varint

theorem encode_ne_nil (n : Nat) : encode n ≠ [] := by
  unfold encode
  split <;> simp

/-- Each group but the last takes seven bits off the number. -/
theorem reads_decodeGroups {top groups n : Nat} (small : top < 128)
    (h : n < (top + 1) * 128 ^ groups) : Reads (decodeGroups top (groups + 1)) (encode n) n := by
  induction groups generalizing n with
  | zero =>
    rw [Nat.pow_zero, Nat.mul_one] at h
    rw [encode_of_lt (by omega), decodeGroups]
    refine .byte ?_
    rw [UInt8.toNat_ofNat_of_lt' (show n < 256 by omega), if_pos (by omega), if_neg (by omega)]
    exact .pure n
  | succ groups ih =>
    by_cases hn : n < 128
    · rw [encode_of_lt hn, decodeGroups]
      refine .byte ?_
      rw [UInt8.toNat_ofNat_of_lt' (show n < 256 by omega), if_pos hn, if_neg (by omega)]
      exact .pure n
    · have step : n % 128 + 128 * (n / 128) = n := Nat.mod_add_div n 128
      have less : n / 128 < (top + 1) * 128 ^ groups := by
        rw [Nat.div_lt_iff_lt_mul (by decide), Nat.mul_assoc, ← Nat.pow_succ]
        exact h
      rw [encode_of_ge hn, decodeGroups]
      refine .byte ?_
      rw [UInt8.toNat_ofNat_of_lt' (show n % 128 + 128 < 256 by omega), if_neg (by omega),
        Nat.add_mod_right, Nat.mod_mod]
      have high : Reads (decodeGroups top (groups + 1) >>= fun high =>
          Pure.pure (n % 128 + 128 * high)) (encode (n / 128)) (n % 128 + 128 * (n / 128)) :=
        (ih less).map
      rw [step] at high
      exact high

theorem reads_decode64 {n : Nat} (h : n < 2 ^ 64) : Reads decode64 (encode n) n :=
  reads_decodeGroups (by decide) h

theorem reads_decode32 {n : Nat} (h : n < 2 ^ 32) : Reads decode32 (encode n) n :=
  reads_decodeGroups (by decide) h

end Varint

/-- The decoder reads back what the encoder writes, and each value takes at least one byte. -/
structure Inverse (encode : α → List UInt8) (decode : Decoder α) : Prop where
  reads : ∀ a, (encode a).length < 2 ^ 64 → Reads decode (encode a) a
  ne_nil : ∀ a, encode a ≠ []

theorem splitBytes_append (bytes taken rest : List UInt8) :
    splitBytes bytes.length taken (bytes ++ rest) = some (bytes.reverse ++ taken, rest) := by
  induction bytes generalizing taken with
  | nil => rfl
  | cons b bytes ih =>
    rw [List.length_cons, List.cons_append, splitBytes, ih, List.reverse_cons, List.append_assoc]
    rfl

theorem reads_takeBytes (bytes : List UInt8) : Reads (takeBytes bytes.length) bytes bytes := by
  intro rest
  unfold takeBytes
  rw [splitBytes_append, List.append_nil]
  simp only [List.reverse_reverse]

theorem splitBytes_eq_some {n : Nat} {taken bytes read rest : List UInt8}
    (h : splitBytes n taken bytes = some (read, rest)) :
    ∃ front, front.length = n ∧ bytes = front ++ rest ∧ read = front.reverse ++ taken := by
  induction n generalizing taken bytes with
  | zero =>
    cases h
    exact ⟨[], rfl, rfl, rfl⟩
  | succ n ih =>
    cases bytes with
    | nil => cases h
    | cons b bytes =>
      obtain ⟨front, count, rfl, rfl⟩ := ih h
      exact ⟨b :: front, by rw [List.length_cons, count], rfl, by simp⟩

theorem takeBytes_eq_ok {n : Nat} {bytes read rest : List UInt8}
    (h : takeBytes n bytes = .ok (read, rest)) : read.length = n ∧ bytes = read ++ rest := by
  unfold takeBytes at h
  split at h
  · rename_i taken more divided
    obtain ⟨front, count, rfl, rfl⟩ := splitBytes_eq_some divided
    cases h
    simp [count]
  · cases h

theorem toUTF8_of_fromUTF8? {bytes : List UInt8} {s : String}
    (h : String.fromUTF8? ⟨bytes.toArray⟩ = some s) : s.toUTF8.data.toList = bytes := by
  unfold String.fromUTF8? at h
  split at h
  · cases h
    simp [String.fromUTF8]
  · cases h

theorem fromUTF8?_toUTF8 (s : String) :
    String.fromUTF8? ⟨s.toUTF8.data.toList.toArray⟩ = some s := by
  rw [Array.toArray_toList]
  exact dif_pos s.isValidUTF8

theorem append_ne_nil_of_encode (n : Nat) (bytes : List UInt8) :
    Varint.encode n ++ bytes ≠ [] :=
  List.append_ne_nil_of_left_ne_nil (Varint.encode_ne_nil n) bytes

theorem inverse_text : Inverse encodeText decodeText where
  reads s h := by
    have short : s.toUTF8.data.toList.length < 2 ^ 64 := by
      unfold encodeText at h
      rw [List.length_append] at h
      omega
    refine (Varint.reads_decode64 short).bind ?_
    refine (reads_takeBytes s.toUTF8.data.toList).last ?_
    rw [fromUTF8?_toUTF8]
    exact .pure s
  ne_nil s := append_ne_nil_of_encode _ _

theorem inverse_flag : Inverse encodeFlag decodeFlag where
  reads b _ := by
    cases b with
    | false => exact .byte (.pure false)
    | true => exact .byte (.pure true)
  ne_nil b := List.cons_ne_nil _ _

section Structured

variable {encode : α → List UInt8} {decode : Decoder α}

theorem inverse_option (h : Inverse encode decode) :
    Inverse (encodeOption encode) (decodeOption decode) where
  reads a short := by
    cases a with
    | none => exact .byte (.pure none)
    | some a =>
      have part : (encode a).length < 2 ^ 64 := by
        unfold encodeOption at short
        rw [List.length_cons] at short
        omega
      exact .byte (h.reads a part).map
  ne_nil a := by
    cases a with
    | none => exact List.cons_ne_nil _ _
    | some a => exact List.cons_ne_nil _ _

theorem length_le_length_flatMap (h : Inverse encode decode) (as : List α) :
    as.length ≤ (as.flatMap encode).length := by
  induction as with
  | nil => exact Nat.le_refl 0
  | cons a as ih =>
    have one := List.length_pos_iff.2 (h.ne_nil a)
    rw [List.flatMap_cons, List.length_append, List.length_cons]
    omega

theorem reads_decodeItems (h : Inverse encode decode) {as : List α}
    (short : (as.flatMap encode).length < 2 ^ 64) (read : List α) :
    Reads (decodeItems decode as.length read) (as.flatMap encode) (read.reverse ++ as) := by
  induction as generalizing read with
  | nil =>
    rw [List.append_nil]
    exact .pure read.reverse
  | cons a as ih =>
    rw [List.flatMap_cons, List.length_append] at short
    have goesOn := ih (by omega) (a :: read)
    rw [List.reverse_cons, List.append_assoc] at goesOn
    exact (h.reads a (by omega)).bind goesOn

theorem inverse_list (h : Inverse encode decode) :
    Inverse (encodeList encode) (decodeList decode) where
  reads as short := by
    unfold encodeList at short
    rw [List.length_append] at short
    have count := length_le_length_flatMap h as
    exact (Varint.reads_decode64 (by omega)).bind (reads_decodeItems h (by omega) [])
  ne_nil as := append_ne_nil_of_encode _ _

theorem inverse_index {index : α → Nat} {ofIndex? : Nat → Option α}
    (back : ∀ a, ofIndex? (index a) = some a) (small : ∀ a, index a < 2 ^ 32) :
    Inverse (fun a => Varint.encode (index a)) (decodeIndex ofIndex?) where
  reads a _ := by
    refine (Varint.reads_decode32 (small a)).last ?_
    rw [back]
    exact .pure a
  ne_nil a := Varint.encode_ne_nil _

end Structured

end GuidedTour.Snapshot
