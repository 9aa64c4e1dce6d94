import GuidedTour.Text.Hex
import GuidedTour.Toml.Basic
import GuidedTour.Toml.Moment

/-! Values that are written without quotes: numbers, flags, dates and times. Digits may be
grouped by single underscores between them. A number may be of any size; one that is too
large to be held stays so. -/
namespace GuidedTour.Toml.Scalar

/-- The digits read so far stand last first. -/
def ungroupedFrom (isDigit : Char → Bool) (read : List Char) : List Char → Option (List Char)
  | [] => none
  | [c] => if isDigit c then some (c :: read).reverse else none
  | c :: d :: rest =>
    if !isDigit c then none
    else if d = '_' then ungroupedFrom isDigit (c :: read) rest
    else ungroupedFrom isDigit (c :: read) (d :: rest)

/-- The digits without the underscores, each of which has to stand between two digits. -/
def ungrouped? (isDigit : Char → Bool) (cs : List Char) : Option (List Char) :=
  ungroupedFrom isDigit [] cs

def valueIn (base : Nat) (digits : List Char) : Nat :=
  digits.foldl (fun n c => n * base + (Text.Hex.value? c).getD 0) 0

/-- Decimal digits that start with a zero only if they are just that. -/
def decimal? (cs : List Char) : Option (List Char) :=
  (ungrouped? Char.isDigit cs).filter fun digits => digits.length = 1 || digits.head? ≠ some '0'

/-- The value of digits. All that have more than 128 digits stand for one number, which
128 bits do not hold. -/
def size (base : Nat) (digits : List Char) : Nat :=
  let digits := digits.dropWhile (· = '0')
  if 128 < digits.length then Nat.pow 2 128 else valueIn base digits

/-- An integer in another base. -/
def based? (base : Nat) (cs : List Char) : Option Value :=
  let isDigit (c : Char) := (Text.Hex.value? c).any (· < base)
  (ungrouped? isDigit cs).map fun digits => .integer (size base digits)

/-- Half a unit above the largest double. -/
def tooLarge : Nat := Nat.pow 2 1024 - Nat.pow 2 970

/-- Decimal digits in front of the point that only too large numbers exceed. -/
def maxDigits : Nat := 309

/-- Whether digits times a power of ten are too large. Only the digits in front of the point
decide. -/
def overflows (digits : List Char) (exponent : Int) : Bool :=
  let digits := digits.dropWhile (· = '0')
  let front := digits.length + exponent
  if digits.isEmpty || front < maxDigits then false
  else maxDigits < front ||
    tooLarge ≤ valueIn 10 ((digits ++ List.replicate maxDigits '0').take maxDigits)

/-- The exponent of a float; nothing if it is badly written. -/
def exponent? (cs : List Char) : Option Int :=
  match cs with
  | '-' :: cs => (ungrouped? Char.isDigit cs).map fun digits => -(size 10 digits : Int)
  | '+' :: cs => (ungrouped? Char.isDigit cs).map fun digits => (size 10 digits : Int)
  | cs => (ungrouped? Char.isDigit cs).map fun digits => (size 10 digits : Int)

def isMark (c : Char) : Bool := c = 'e' || c = 'E'

/-- An unsigned float: a fraction, an exponent, or both after the integer digits. -/
def float? (cs : List Char) : Option Value :=
  let mantissa := cs.takeWhile (!isMark ·)
  let integer := mantissa.takeWhile (· ≠ '.')
  let fraction := match mantissa.dropWhile (· ≠ '.') with
    | [] => some []
    | _ :: digits => ungrouped? Char.isDigit digits
  let exponent := match cs.dropWhile (!isMark ·) with
    | [] => some 0
    | _ :: rest => exponent? rest
  match decimal? integer, fraction, exponent with
  | some integer, some fraction, some exponent =>
    some (.float (!overflows (integer ++ fraction) (exponent - fraction.length)))
  | _, _, _ => none

/-- A number without base and sign; `sign` is its factor. -/
def number? (sign : Int) (cs : List Char) : Option Value :=
  if cs.any fun c => c = '.' || isMark c then float? cs
  else (decimal? cs).map fun digits => .integer (sign * size 10 digits)

def special? (cs : List Char) : Option Value :=
  if cs = ['i', 'n', 'f'] ∨ cs = ['n', 'a', 'n'] then some (.float true) else none

/-- Digits before a hyphen or a colon start a date or a time. -/
def startsMoment (cs : List Char) : Bool :=
  match cs.dropWhile fun c => c.isDigit || c = '_' with
  | c :: _ => c = '-' || c = ':'
  | [] => false

def ofChars? (cs : List Char) : Option Value :=
  match cs with
  | ['t', 'r', 'u', 'e'] => some (.flag true)
  | ['f', 'a', 'l', 's', 'e'] => some (.flag false)
  | '+' :: rest => (special? rest).or (number? 1 rest)
  | '-' :: rest => (special? rest).or (number? (-1) rest)
  | '0' :: 'x' :: digits => based? 16 digits
  | '0' :: 'o' :: digits => based? 8 digits
  | '0' :: 'b' :: digits => based? 2 digits
  | _ =>
    if startsMoment cs then (if Moment.isMoment cs then some .moment else none)
    else (special? cs).or (number? 1 cs)

end GuidedTour.Toml.Scalar
