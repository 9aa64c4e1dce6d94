/-! UTF-8 text from bytes. A refusal says where the first bytes stand that belong to no
character, and how many of them are certain to be wrong. -/
namespace GuidedTour.Text.Utf8

structure Fault where
  /-- Bytes before the fault. -/
  index : Nat
  /-- Wrong bytes; nothing if the text ends inside a character. -/
  length : Option Nat
  deriving DecidableEq, Repr

def Fault.message (f : Fault) : String :=
  match f.length with
  | some n => "invalid utf-8 sequence of " ++ toString n ++ " bytes from index " ++ toString f.index
  | none => "incomplete utf-8 byte sequence from index " ++ toString f.index

def isTail (b : UInt8) : Bool := 0x80 ≤ b && b ≤ 0xBF

/-- Second bytes that may follow the first of three. -/
def isSecondOfThree (a b : UInt8) : Bool :=
  if a = 0xE0 then 0xA0 ≤ b && b ≤ 0xBF
  else if a = 0xED then 0x80 ≤ b && b ≤ 0x9F
  else isTail b

/-- Second bytes that may follow the first of four. -/
def isSecondOfFour (a b : UInt8) : Bool :=
  if a = 0xF0 then 0x90 ≤ b && b ≤ 0xBF
  else if a = 0xF4 then 0x80 ≤ b && b ≤ 0x8F
  else isTail b

/-- First fault of the bytes from `index` on. -/
def faultFrom (index : Nat) : List UInt8 → Option Fault
  | [] => none
  | a :: rest =>
    if a < 0x80 then faultFrom (index + 1) rest
    else if 0xC2 ≤ a && a ≤ 0xDF then
      match rest with
      | [] => some ⟨index, none⟩
      | b :: rest => if isTail b then faultFrom (index + 2) rest else some ⟨index, some 1⟩
    else if 0xE0 ≤ a && a ≤ 0xEF then
      match rest with
      | [] => some ⟨index, none⟩
      | b :: rest =>
        if !isSecondOfThree a b then some ⟨index, some 1⟩
        else match rest with
          | [] => some ⟨index, none⟩
          | c :: rest => if isTail c then faultFrom (index + 3) rest else some ⟨index, some 2⟩
    else if 0xF0 ≤ a && a ≤ 0xF4 then
      match rest with
      | [] => some ⟨index, none⟩
      | b :: rest =>
        if !isSecondOfFour a b then some ⟨index, some 1⟩
        else match rest with
          | [] => some ⟨index, none⟩
          | c :: rest =>
            if !isTail c then some ⟨index, some 2⟩
            else match rest with
              | [] => some ⟨index, none⟩
              | d :: rest => if isTail d then faultFrom (index + 4) rest else some ⟨index, some 3⟩
    else some ⟨index, some 1⟩

def decode (bytes : ByteArray) : Except Fault String :=
  match String.fromUTF8? bytes with
  | some s => .ok s
  | none => .error ((faultFrom 0 bytes.data.toList).getD ⟨0, none⟩)

end GuidedTour.Text.Utf8
