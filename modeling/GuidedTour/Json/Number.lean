/-! Which spelled numbers are too large to be read. A number is held as at most 64
bits of leading digits and a power of ten, both rounded to a double, and is refused
when their product rounds to infinity. -/
namespace GuidedTour.Json.Number

/-- Digits and the power of ten that they are multiplied by. -/
structure Decimal where
  digits : Nat := 0
  exponent : Int := 0
  deriving DecidableEq, Repr

def maxDigits : Nat := Nat.pow 2 64 - 1

def digit (c : Char) : Nat := c.toNat - '0'.toNat

/-- Integer digits: those that no longer fit count as zeros, and so do all after them. -/
def addInteger (s : Decimal × Bool) (c : Char) : Decimal × Bool :=
  let (d, full) := s
  if full || maxDigits < d.digits * 10 + digit c then
    ({ d with exponent := d.exponent + 1 }, true)
  else ({ d with digits := d.digits * 10 + digit c }, false)

/-- Fraction digits: those that no longer fit are dropped, and so are all after them. -/
def addFraction (s : Decimal × Bool) (c : Char) : Decimal × Bool :=
  let (d, full) := s
  if full || maxDigits < d.digits * 10 + digit c then (d, true)
  else (⟨d.digits * 10 + digit c, d.exponent - 1⟩, false)

/-- No text has so many digits that they make up for an exponent of this size. -/
def maxExponent : Nat := Nat.pow 2 64

def exponentOf (cs : List Char) : Int :=
  let value (ds : List Char) : Nat :=
    ds.foldl (fun n c => min (n * 10 + digit c) maxExponent) 0
  match cs with
  | '-' :: ds => -(value ds : Int)
  | '+' :: ds => value ds
  | ds => value ds

/-- Reads a number that is spelled according to the grammar. -/
def ofLexeme (lexeme : List Char) : Decimal :=
  let cs := if lexeme.head? = some '-' then lexeme.drop 1 else lexeme
  let integer := cs.takeWhile Char.isDigit
  let cs := cs.dropWhile Char.isDigit
  let d := (integer.foldl addInteger ({}, false)).1
  let (d, cs) := match cs with
    | '.' :: rest =>
      (((rest.takeWhile Char.isDigit).foldl addFraction (d, false)).1,
        rest.dropWhile Char.isDigit)
    | rest => (d, rest)
  { d with exponent := d.exponent + exponentOf (cs.drop 1) }

/-- Rounds to 53 significant bits, ties to even. -/
def round53 (n : Nat) : Nat :=
  let drop := Nat.log2 n - 52
  let unit := Nat.pow 2 drop
  let kept := n / unit
  let rest := n % unit
  if 2 * rest > unit || (2 * rest == unit && kept % 2 == 1) then (kept + 1) * unit
  else kept * unit

def inRange (lexeme : List Char) : Bool :=
  let d := ofLexeme lexeme
  d.digits == 0 || d.exponent ≤ 0 ||
    (d.exponent ≤ 308 &&
      round53 (round53 d.digits * round53 (Nat.pow 10 d.exponent.toNat)) < Nat.pow 2 1024)

end GuidedTour.Json.Number
