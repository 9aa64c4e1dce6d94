/-! Dates and times: a date, a time of day, or both with an offset from universal time.
Seconds may be left out, and a second may be the sixtieth. -/
namespace GuidedTour.Toml.Moment

/-- A number of so many digits in front, and the rest. -/
def number? : Nat → Nat → List Char → Option (Nat × List Char)
  | 0, n, rest => some (n, rest)
  | count + 1, n, c :: rest =>
    if c.isDigit then number? count (n * 10 + (c.toNat - '0'.toNat)) rest else none
  | _ + 1, _, [] => none

def drop? (expected : Char) : List Char → Option (List Char)
  | c :: rest => if c = expected then some rest else none
  | [] => none

def isLeap (year : Nat) : Bool := year % 4 = 0 && (year % 100 ≠ 0 || year % 400 = 0)

def daysIn (year month : Nat) : Nat :=
  if month = 2 then (if isLeap year then 29 else 28)
  else if [4, 6, 9, 11].contains month then 30 else 31

/-- What is left after a date. -/
def dateRest? (cs : List Char) : Option (List Char) := do
  let (year, cs) ← number? 4 0 cs
  let (month, cs) ← number? 2 0 (← drop? '-' cs)
  let (day, cs) ← number? 2 0 (← drop? '-' cs)
  if 1 ≤ month ∧ month ≤ 12 ∧ 1 ≤ day ∧ day ≤ daysIn year month then return cs else none

/-- What is left after seconds and parts of a second, both of which may be missing. -/
def secondRest? (cs : List Char) : Option (List Char) :=
  match cs with
  | ':' :: cs => do
    let (second, cs) ← number? 2 0 cs
    if 60 < second then none
    else match cs with
      | '.' :: cs =>
        if (cs.takeWhile Char.isDigit).isEmpty then none else return cs.dropWhile Char.isDigit
      | cs => return cs
  | cs => some cs

/-- What is left after a time of day. -/
def timeRest? (cs : List Char) : Option (List Char) := do
  let (hour, cs) ← number? 2 0 cs
  let (minute, cs) ← number? 2 0 (← drop? ':' cs)
  if hour ≤ 23 ∧ minute ≤ 59 then secondRest? cs else none

def isOffset (cs : List Char) : Bool :=
  match cs with
  | [c] => c = 'Z' || c = 'z'
  | c :: cs =>
    (c = '+' || c = '-') && ((do
      let (hour, cs) ← number? 2 0 cs
      let (minute, cs) ← number? 2 0 (← drop? ':' cs)
      return cs.isEmpty && hour ≤ 23 && minute ≤ 59).getD false)
  | [] => false

/-- A time of day stands alone, or after a date and one of three separators. -/
def isMoment (cs : List Char) : Bool :=
  match dateRest? cs with
  | some [] => true
  | some (c :: cs) =>
    (c = 'T' || c = 't' || c = ' ') &&
      (match timeRest? cs with
        | some rest => rest.isEmpty || isOffset rest
        | none => false)
  | none => timeRest? cs == some []

end GuidedTour.Toml.Moment
