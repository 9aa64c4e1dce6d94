import GuidedTour.Json.Basic

/-! The fields of a value as it is sent: by name in any order, or listed in their
declared order without names. Unknown names do not count. A known name may come
only once, and a list may stop early only where what is left has a default. -/
namespace GuidedTour.Wire

inductive Payload where
  | named (fields : List (String × Json))
  | listed (items : List Json)

/-- A declared field; one with a default may be missing from the end of a list. -/
structure Slot where
  name : String
  hasDefault : Bool := false
  deriving DecidableEq, Repr

def slots (names : List String) : List Slot := names.map ({ name := · })

/-- The fields of an untagged value. -/
def Payload.ofJson? : Json → Option Payload
  | .object fields => some (.named fields)
  | .list items => some (.listed items)
  | _ => none

/-- The word under `tag`, and the fields beside it. In a list the word comes first. -/
def Payload.tagged? (tag : String) : Json → Option (String × Payload)
  | .object fields =>
    match fields.filter (·.1 == tag) with
    | [(_, .text word)] => some (word, .named (fields.filter (·.1 != tag)))
    | _ => none
  | .list (.text word :: items) => some (word, .listed items)
  | _ => none

/-- The declared fields that are present. -/
def Payload.read? (declared : List Slot) : Payload → Option (List (String × Json))
  | .named fields =>
    if declared.all fun slot => (fields.filter (·.1 == slot.name)).length ≤ 1 then
      some (fields.filter fun field => declared.any (·.name == field.1))
    else none
  | .listed items =>
    if items.length ≤ declared.length ∧ (declared.drop items.length).all (·.hasDefault) then
      some ((declared.map (·.name)).zip items)
    else none

/-- A value that carries no fields: any names do, but no list items. -/
def Payload.isBare : Payload → Bool
  | .named _ => true
  | .listed items => items.isEmpty

def field? (fields : List (String × Json)) (name : String) : Option Json :=
  fields.lookup name

/-- A field that has to be there. -/
def required? (fields : List (String × Json)) (name : String) (read : Json → Option α) :
    Option α :=
  (field? fields name).bind read

/-- A field that may be missing, and then has a default. -/
def default? (fields : List (String × Json)) (name : String) (default : α)
    (read : Json → Option α) : Option α :=
  match field? fields name with
  | some j => read j
  | none => some default

/-- A field that may be missing or `null`. -/
def optional? (fields : List (String × Json)) (name : String) (read : Json → Option α) :
    Option (Option α) :=
  match field? fields name with
  | none | some .null => some none
  | some j => (read j).map some

/-- A word out of a fixed choice, alone or as the only name of an object that holds `null`. -/
def word? : Json → Option String
  | .text word => some word
  | .object [(word, .null)] => some word
  | _ => none

/-- A word within a tagged value. There the object may also hold an empty object. -/
def taggedWord? : Json → Option String
  | .object [(word, .object [])] => some word
  | j => word? j

end GuidedTour.Wire
