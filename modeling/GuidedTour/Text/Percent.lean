import GuidedTour.Text.Hex

/-! Percent-encoded text: a percent sign and two hexadecimal digits stand for one byte.
Every other character, also a percent sign without two digits, stands for itself. -/
namespace GuidedTour.Text.Percent

def charBytes (c : Char) : List UInt8 := (String.singleton c).toUTF8.data.toList

/-- The bytes that a text stands for. -/
def bytes : List Char → List UInt8
  | [] => []
  | [c] => charBytes c
  | [c, d] => charBytes c ++ charBytes d
  | c :: d :: e :: rest =>
    match (if c = '%' then Hex.value? d else none), Hex.value? e with
    | some high, some low => UInt8.ofNat (high * 16 + low) :: bytes rest
    | _, _ => charBytes c ++ bytes (d :: e :: rest)

/-- Nothing if the bytes are no text. -/
def decode? (cs : List Char) : Option String := String.fromUTF8? ⟨(bytes cs).toArray⟩

end GuidedTour.Text.Percent
