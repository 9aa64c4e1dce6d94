import GuidedTour.Text.Hex

/-! JSON values, and the text that is written for them. Objects keep their fields
in order, and a number is kept as it is spelled. Text escapes quotes, backslashes
and control characters, and nothing else. -/
namespace GuidedTour

inductive Json where
  | null
  | flag (value : Bool)
  | number (lexeme : String)
  | text (value : String)
  | list (items : List Json)
  | object (fields : List (String × Json))

namespace Json

def nat (n : Nat) : Json := number (toString n)

def texts (ss : List String) : Json := list (ss.map text)

/-- Nothing is written as `null`. -/
def optional (f : α → Json) : Option α → Json
  | some a => f a
  | none => null

def escape (c : Char) : List Char :=
  if c = '"' then ['\\', '"']
  else if c = '\\' then ['\\', '\\']
  else if c.toNat < 0x20 then
    if c = '\x08' then ['\\', 'b']
    else if c = '\t' then ['\\', 't']
    else if c = '\n' then ['\\', 'n']
    else if c = '\x0c' then ['\\', 'f']
    else if c = '\x0d' then ['\\', 'r']
    else ['\\', 'u', '0', '0', Text.Hex.digit (c.toNat / 16),
      Text.Hex.digit (c.toNat % 16)]
  else [c]

def quote (s : String) : List Char :=
  '"' :: (s.toList.flatMap escape ++ ['"'])

mutual

/-- The shortest layout: no blanks at all. -/
def chars : Json → List Char
  | null => "null".toList
  | flag true => "true".toList
  | flag false => "false".toList
  | number lexeme => lexeme.toList
  | text s => quote s
  | list [] => ['[', ']']
  | list (item :: items) => '[' :: (chars item ++ moreItems items)
  | object [] => ['{', '}']
  | object ((key, value) :: fields) =>
    '{' :: (quote key ++ ':' :: (chars value ++ moreFields fields))

def moreItems : List Json → List Char
  | [] => [']']
  | item :: items => ',' :: (chars item ++ moreItems items)

def moreFields : List (String × Json) → List Char
  | [] => ['}']
  | (key, value) :: fields =>
    ',' :: (quote key ++ ':' :: (chars value ++ moreFields fields))

end

def compact (j : Json) : String := String.ofList j.chars

/-- Line break and indentation, two blanks a level. -/
def breakLine (out : String) (level : Nat) : String :=
  out ++ "\n" ++ String.ofList (List.replicate (2 * level) ' ')

def quoted (s : String) : String := String.ofList (quote s)

mutual

/-- Appends a value in the indented layout: one item or field a line, and nothing
between the brackets of an empty list or object. -/
def appendPretty (out : String) (level : Nat) : Json → String
  | null => out ++ "null"
  | flag true => out ++ "true"
  | flag false => out ++ "false"
  | number lexeme => out ++ lexeme
  | text s => out ++ quoted s
  | list [] => out ++ "[]"
  | list (item :: items) =>
    appendItems (appendPretty (breakLine (out ++ "[") (level + 1)) (level + 1) item) level items
  | object [] => out ++ "\x7b\x7d"
  | object ((key, value) :: fields) =>
    let out := breakLine (out ++ "\x7b") (level + 1) ++ quoted key ++ ": "
    appendFields (appendPretty out (level + 1) value) level fields

def appendItems (out : String) (level : Nat) : List Json → String
  | [] => breakLine out level ++ "]"
  | item :: items =>
    appendItems (appendPretty (breakLine (out ++ ",") (level + 1)) (level + 1) item) level items

def appendFields (out : String) (level : Nat) : List (String × Json) → String
  | [] => breakLine out level ++ "\x7d"
  | (key, value) :: fields =>
    let out := breakLine (out ++ ",") (level + 1) ++ quoted key ++ ": "
    appendFields (appendPretty out (level + 1) value) level fields

end

def pretty (j : Json) : String := appendPretty "" 0 j

/-- The fields of an object. -/
def fields? : Json → Option (List (String × Json))
  | object fields => some fields
  | _ => none

def text? : Json → Option String
  | text s => some s
  | _ => none

def flag? : Json → Option Bool
  | flag b => some b
  | _ => none

def list? : Json → Option (List Json)
  | list items => some items
  | _ => none

def texts? (j : Json) : Option (List String) :=
  j.list?.bind (·.mapM text?)

end Json

end GuidedTour
