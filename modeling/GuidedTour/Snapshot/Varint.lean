/-! Unsigned numbers as bytes: seven bits a byte, lowest first, and the top bit set on
all but the last. A number of a given width is read from at most as many bytes as
that width needs; leading zero groups are allowed. -/
namespace GuidedTour.Snapshot

/-- What is wrong with the bytes of a snapshot's payload. -/
inductive PayloadFault where
  | unexpectedEnd
  | badVarint
  | badOption
  | badFlag
  | badText
  /-- The number of a feature or region that does not exist. -/
  | badIndex
  deriving DecidableEq, Repr

def PayloadFault.reason : PayloadFault → String
  | unexpectedEnd => "Hit the end of buffer, expected more data"
  | badVarint =>
    "Found a varint that didn't terminate. Is the usize too big for this platform?"
  | badOption => "Found an Option discriminant that wasn't 0 or 1"
  | badFlag => "Found a bool that wasn't 0 or 1"
  | badText => "Tried to parse invalid utf-8"
  | badIndex => "Serde Deserialization Error"

/-- A reader takes bytes from the front and leaves the rest. -/
abbrev Decoder := StateT (List UInt8) (Except PayloadFault)

def refuse (fault : PayloadFault) : Decoder α := fun _ => .error fault

def nextByte : Decoder UInt8
  | [] => .error .unexpectedEnd
  | b :: rest => .ok (b, rest)

namespace Varint

def encode (n : Nat) : List UInt8 :=
  if h : n < 128 then [UInt8.ofNat n]
  else UInt8.ofNat (n % 128 + 128) :: encode (n / 128)
termination_by n
decreasing_by omega

theorem encode_of_lt {n : Nat} (small : n < 128) : encode n = [UInt8.ofNat n] := by
  rw [encode, dif_pos small]

theorem encode_of_ge {n : Nat} (large : ¬n < 128) :
    encode n = UInt8.ofNat (n % 128 + 128) :: encode (n / 128) := by
  rw [encode.eq_def, dif_neg large]

/-- Reads at most `groups` more bytes, the last of them at most `top`. -/
def decodeGroups (top : Nat) : Nat → Decoder Nat
  | 0 => refuse .badVarint
  | groups + 1 => do
    let b ← nextByte
    if b.toNat < 128 then
      if groups = 0 ∧ top < b.toNat then refuse .badVarint else return b.toNat
    else return b.toNat % 128 + 128 * (← decodeGroups top groups)

/-- A number of 64 bits. -/
def decode64 : Decoder Nat := decodeGroups 1 10

/-- A number of 32 bits. -/
def decode32 : Decoder Nat := decodeGroups 15 5

end Varint

end GuidedTour.Snapshot
