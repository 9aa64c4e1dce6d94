/-! TOML documents as values. A table remembers how it came about, because that decides
what may still be added to it: a table that a header only passes through takes dotted keys,
and may get a header of its own; one made by dotted keys takes further dotted keys; one with
a header takes no dotted keys from elsewhere, and an inline table takes nothing more. -/
namespace GuidedTour.Toml

/-- How a table came about. -/
inductive Origin where
  /-- A header leads through it. -/
  | implied
  /-- A dotted key leads through it. -/
  | dotted
  /-- It has a header of its own, or is the document itself. -/
  | header
  | inline
  deriving DecidableEq, Repr

inductive Value where
  | text (value : String)
  | flag (value : Bool)
  | integer (value : Int)
  /-- A float, of which only the size matters: whether a double can hold it. -/
  | float (fits : Bool)
  /-- A date, a time, or both. -/
  | moment
  | array (items : List Value)
  /-- Tables under one header in double brackets, last first. -/
  | tables (rows : List Value)
  | table (origin : Origin) (fields : List (String × Value))

namespace Value

def largest : Int := Int.pow 2 128 - 1

def smallest : Int := -Int.pow 2 127

mutual

/-- Every number in a value can be held: integers in 128 bits, floats in a double. -/
def fits : Value → Bool
  | integer n => smallest ≤ n && n ≤ largest
  | float fits => fits
  | array items => allFit items
  | tables rows => allFit rows
  | table _ fields => fieldsFit fields
  | text _ | flag _ | moment => true

def allFit : List Value → Bool
  | [] => true
  | item :: items => item.fits && allFit items

def fieldsFit : List (String × Value) → Bool
  | [] => true
  | (_, value) :: fields => value.fits && fieldsFit fields

end

def setField (name : String) (value : Value) (fields : List (String × Value)) :
    List (String × Value) :=
  fields.map fun field => if field.1 = name then (name, value) else field

/-- Changes the table at a path. What is missing on the way is made, and of several tables
under one header the last is meant. Nothing if the path leads through anything else. -/
def editAt (dotted : Bool) (edit : Value → Option Value) : List String → Value → Option Value
  | [], t => edit t
  | name :: path, .table origin fields =>
    match fields.lookup name with
    | none => do
      let made := table (if dotted then .dotted else .implied) []
      return table origin (fields ++ [(name, ← editAt dotted edit path made)])
    | some (.tables (last :: rows)) => do
      let last ← editAt dotted edit path last
      return table origin (setField name (tables (last :: rows)) fields)
    | some (.table found inner) =>
      if found = .inline ∨ (dotted ∧ found = .header) then none
      else do return table origin (setField name (← editAt dotted edit path (table found inner)) fields)
    | some _ => none
  | _ :: _, _ => none

/-- What stands at a path. -/
def find? : List String → Value → Option Value
  | [], v => some v
  | name :: path, .table _ fields => (fields.lookup name).bind fun v =>
    match v with
    | .tables (last :: _) => if path.isEmpty then some v else find? path last
    | _ => find? path v
  | _ :: _, _ => none

/-- Adds a value under a new name. A dotted key adds nothing to a table that has a header
of its own. -/
def define (path : List String) (name : String) (value : Value) : Value → Option Value :=
  editAt (!path.isEmpty) (fun
    | .table origin fields =>
      if (path ≠ [] ∧ origin = .header) ∨ (fields.lookup name).isSome then none
      else some (table origin (fields ++ [(name, value)]))
    | _ => none) path

/-- Puts a table with a header of its own in its place. -/
def defineTable (path : List String) (name : String) (t : Value) : Value → Option Value :=
  editAt false (fun
    | .table origin fields =>
      match fields.lookup name with
      | none => some (table origin (fields ++ [(name, t)]))
      | some (.table .implied _) => some (table origin (setField name t fields))
      | some _ => none
    | _ => none) path

/-- Adds one more table under a header in double brackets. -/
def defineRow (path : List String) (name : String) (t : Value) : Value → Option Value :=
  editAt false (fun
    | .table origin fields =>
      match fields.lookup name with
      | none => some (table origin (fields ++ [(name, tables [t])]))
      | some (.tables rows) => some (table origin (setField name (tables (t :: rows)) fields))
      | some _ => none
    | _ => none) path

end Value

end GuidedTour.Toml
