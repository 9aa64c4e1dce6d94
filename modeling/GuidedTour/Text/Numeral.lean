/-! Unsigned numbers as they are typed: decimal digits, after a plus sign if one is
written, up to a largest value. Leading zeros do not count. -/
namespace GuidedTour.Text

/-- The number that a run of digits stands for. -/
def digits? (cs : List Char) : Option Nat :=
  if cs.isEmpty || !cs.all Char.isDigit then none
  else some (cs.foldl (fun n c => n * 10 + (c.toNat - '0'.toNat)) 0)

def unsigned? (largest : Nat) (cs : List Char) : Option Nat :=
  let cs := if cs.head? = some '+' then cs.drop 1 else cs
  (digits? cs).filter (· ≤ largest)

end GuidedTour.Text
