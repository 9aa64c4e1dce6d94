import GuidedTour.Text.Hex
import GuidedTour.Json.Number

/-! Tokens of JSON text, found by one pass over its characters. Where the text stops
being JSON the pass ends with a `broken` token, so that a reader meets that place
exactly when it gets there. -/
namespace GuidedTour.Json

inductive Token where
  | openList | closeList | openObject | closeObject | comma | colon
  | null
  | flag (value : Bool)
  | number (lexeme : List Char)
  /-- A string; nothing if it holds half of a surrogate pair. -/
  | text (value : Option String)
  /-- The text is no JSON from here on. -/
  | broken
  deriving DecidableEq, Repr

/-- Part of a string: a character, or one half of a surrogate pair. -/
inductive Piece where
  | char (c : Char)
  | half (unit : Nat)
  deriving DecidableEq, Repr

/-- The piece that an escape of four hexadecimal digits stands for. -/
def Piece.ofUnit (n : Nat) : Piece :=
  if 0xD800 ≤ n ∧ n ≤ 0xDFFF then half n else char (Char.ofNat n)

/-- Joins pieces, given last first. Halves have to come in pairs, upper before lower. -/
def joinPieces : List Piece → List Char → Option (List Char)
  | [], done => some done
  | .char c :: earlier, done => joinPieces earlier (c :: done)
  | .half lower :: .half upper :: earlier, done =>
    if upper < 0xDC00 ∧ 0xDC00 ≤ lower then
      joinPieces earlier
        (Char.ofNat (0x10000 + (upper - 0xD800) * 0x400 + (lower - 0xDC00)) :: done)
    else none
  | .half _ :: _, _ => none

/-- How far a number has been read. -/
inductive NumberStage where
  | minus | zero | integer | point | fraction | mark | sign | exponent
  deriving DecidableEq, Repr

/-- A number may end here. -/
def NumberStage.complete : NumberStage → Bool
  | zero | integer | fraction | exponent => true
  | minus | point | mark | sign => false

inductive Advance where
  | go (stage : NumberStage)
  /-- The number ends before this character. -/
  | stop
  /-- No number goes on like this. -/
  | fail

def NumberStage.advance (stage : NumberStage) (c : Char) : Advance :=
  match stage with
  | minus => if c = '0' then .go zero else if c.isDigit then .go integer else .fail
  | zero =>
    if c.isDigit then .fail
    else if c = '.' then .go point
    else if c = 'e' ∨ c = 'E' then .go mark
    else .stop
  | integer =>
    if c.isDigit then .go integer
    else if c = '.' then .go point
    else if c = 'e' ∨ c = 'E' then .go mark
    else .stop
  | point => if c.isDigit then .go fraction else .fail
  | fraction =>
    if c.isDigit then .go fraction
    else if c = 'e' ∨ c = 'E' then .go mark
    else .stop
  | mark =>
    if c.isDigit then .go exponent else if c = '+' ∨ c = '-' then .go sign else .fail
  | sign => if c.isDigit then .go exponent else .fail
  | exponent => if c.isDigit then .go exponent else .stop

inductive Mode where
  | between
  /-- Inside a string; pieces last first. -/
  | string (pieces : List Piece)
  | escape (pieces : List Piece)
  /-- Inside an escape of hexadecimal digits, with so many left to come. -/
  | unit (pieces : List Piece) (value : Nat) (left : Nat)
  /-- Inside a number; characters last first. -/
  | number (stage : NumberStage) (read : List Char)
  /-- Inside a word, with these characters left to come. -/
  | word (left : List Char) (token : Token)
  | stuck
  deriving DecidableEq, Repr

/-- A pass over the characters; tokens last first. -/
structure Scan where
  mode : Mode := .between
  tokens : List Token := []
  deriving DecidableEq, Repr

namespace Scan

def emit (s : Scan) (token : Token) : Scan := ⟨.between, token :: s.tokens⟩

def enter (s : Scan) (mode : Mode) : Scan := { s with mode }

def fail (s : Scan) : Scan := ⟨.stuck, .broken :: s.tokens⟩

/-- The character that a short escape stands for. -/
def escaped? : Char → Option Char
  | '"' => some '"'
  | '\\' => some '\\'
  | '/' => some '/'
  | 'b' => some '\x08'
  | 'f' => some '\x0c'
  | 'n' => some '\n'
  | 'r' => some '\x0d'
  | 't' => some '\t'
  | _ => none

/-- A character outside of every token. -/
def stepBetween (s : Scan) (c : Char) : Scan :=
  match c with
  | ' ' | '\n' | '\t' | '\x0d' => s.enter .between
  | '[' => s.emit .openList
  | ']' => s.emit .closeList
  | '{' => s.emit .openObject
  | '}' => s.emit .closeObject
  | ',' => s.emit .comma
  | ':' => s.emit .colon
  | '"' => s.enter (.string [])
  | '-' => s.enter (.number .minus [c])
  | '0' => s.enter (.number .zero [c])
  | 'n' => s.enter (.word ['u', 'l', 'l'] .null)
  | 't' => s.enter (.word ['r', 'u', 'e'] (.flag true))
  | 'f' => s.enter (.word ['a', 'l', 's', 'e'] (.flag false))
  | _ => if c.isDigit then s.enter (.number .integer [c]) else s.fail

def step (s : Scan) (c : Char) : Scan :=
  match s.mode with
  | .between => s.stepBetween c
  | .string pieces =>
    if c = '"' then s.emit (.text ((joinPieces pieces []).map String.ofList))
    else if c = '\\' then s.enter (.escape pieces)
    else if c.toNat < 0x20 then s.fail
    else s.enter (.string (.char c :: pieces))
  | .escape pieces =>
    if c = 'u' then s.enter (.unit pieces 0 4)
    else match escaped? c with
      | some e => s.enter (.string (.char e :: pieces))
      | none => s.fail
  | .unit pieces value left =>
    match Text.Hex.value? c with
    | some d =>
      if left = 1 then s.enter (.string (.ofUnit (value * 16 + d) :: pieces))
      else s.enter (.unit pieces (value * 16 + d) (left - 1))
    | none => s.fail
  | .number stage read =>
    match stage.advance c with
    | .go stage => s.enter (.number stage (c :: read))
    | .stop => (s.emit (.number read.reverse)).stepBetween c
    | .fail => s.fail
  | .word left token =>
    match left with
    | [] => s.fail
    | d :: rest =>
      if c = d then (if rest.isEmpty then s.emit token else s.enter (.word rest token))
      else s.fail
  | .stuck => s

/-- End of the text: a string, a word or half a number does not end here. -/
def finish (s : Scan) : List Token :=
  match s.mode with
  | .between | .stuck => s.tokens.reverse
  | .number stage read =>
    if stage.complete then (.number read.reverse :: s.tokens).reverse else s.fail.tokens.reverse
  | _ => s.fail.tokens.reverse

end Scan

def tokens (text : String) : List Token := (text.toList.foldl Scan.step {}).finish

end GuidedTour.Json
