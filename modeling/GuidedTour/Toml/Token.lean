import GuidedTour.Text.Hex

/-! Tokens of TOML text, found by one pass over its characters. A carriage return counts
only together with the line feed after it. The two are one line break, and a text that runs
over several lines keeps both. Comments are blanks. Where the text stops being TOML the pass
ends with a `broken` token. -/
namespace GuidedTour.Toml

inductive Token where
  | dot | equals | comma | openBracket | closeBracket | openBrace | closeBrace
  /-- Spaces, tabs and comments. -/
  | blank
  | lineBreak
  /-- Characters without quotes: a bare key, or a value or part of one. -/
  | word (chars : List Char)
  /-- A quoted text; a block may run over several lines. -/
  | text (value : String) (isBlock : Bool)
  /-- The text is no TOML from here on. -/
  | broken
  deriving DecidableEq, Repr

inductive Mode where
  | between
  | comment
  /-- Characters last first. -/
  | word (read : List Char)
  /-- A date and one space, which a time may follow. -/
  | dated (read : List Char)
  /-- One opening quote. -/
  | opened (quote : Char)
  /-- Two quotes: an empty text, or the start of a block. -/
  | openedTwice (quote : Char)
  | line (quote : Char) (read : List Char)
  /-- Right after the opening quotes of a block; a line break here is dropped. -/
  | blockStart (quote : Char)
  /-- Inside a block, after so many quotes in a row. -/
  | block (quote : Char) (read : List Char) (quotes : Nat)
  | escape (isBlock : Bool) (read : List Char)
  /-- Inside an escape of hexadecimal digits, with so many left to come. -/
  | unit (isBlock : Bool) (read : List Char) (value left : Nat)
  /-- After a backslash at the end of a line: blanks until the line break. -/
  | lineEnd (read : List Char)
  /-- After that line break: blanks and line breaks until something else. -/
  | skip (read : List Char)
  | stuck
  deriving DecidableEq, Repr

/-- A pass over the characters; tokens last first. -/
structure Scan where
  mode : Mode := .between
  tokens : List Token := []
  /-- The last character was a carriage return. -/
  returned : Bool := false
  deriving DecidableEq, Repr

namespace Scan

def emit (s : Scan) (token : Token) : Scan := { s with mode := .between, tokens := token :: s.tokens }

def enter (s : Scan) (mode : Mode) : Scan := { s with mode }

def fail (s : Scan) : Scan := (s.emit .broken).enter .stuck

/-- Blanks in a row are one token. -/
def emitBlank (s : Scan) : Scan :=
  if s.tokens.head? = some .blank then s.enter .between else s.emit .blank

def isControl (c : Char) : Bool := (c.toNat < 0x20 && c ≠ '\t') || c = '\x7f'

/-- Four digits, two and two, with hyphens between them; last first. -/
def isDate (read : List Char) : Bool :=
  read.length = 10 &&
    (read.zipIdx.all fun (c, i) => if i = 2 ∨ i = 5 then c = '-' else c.isDigit)

/-- The character of a short escape. -/
def escaped? : Char → Option Char
  | 'b' => some '\x08'
  | 't' => some '\t'
  | 'n' => some '\n'
  | 'f' => some '\x0c'
  | 'r' => some '\x0d'
  | 'e' => some '\x1b'
  | '"' => some '"'
  | '\\' => some '\\'
  | _ => none

/-- Digits of a numeric escape. -/
def unitLength? : Char → Option Nat
  | 'x' => some 2
  | 'u' => some 4
  | 'U' => some 8
  | _ => none

def emitText (s : Scan) (read : List Char) (isBlock : Bool) : Scan :=
  s.emit (.text (String.ofList read.reverse) isBlock)

/-- Goes on with a text in double quotes. -/
def resume (s : Scan) (isBlock : Bool) (read : List Char) : Scan :=
  s.enter (if isBlock then .block '"' read 0 else .line '"' read)

/-- A character outside of every token. -/
def stepBetween (s : Scan) (c : Char) : Scan :=
  match c with
  | '.' => s.emit .dot
  | '=' => s.emit .equals
  | ',' => s.emit .comma
  | '[' => s.emit .openBracket
  | ']' => s.emit .closeBracket
  | '{' => s.emit .openBrace
  | '}' => s.emit .closeBrace
  | ' ' | '\t' => s.emitBlank
  | '\n' => s.emit .lineBreak
  | '#' => s.emitBlank.enter .comment
  | '"' | '\'' => s.enter (.opened c)
  | _ => s.enter (.word [c])

def endsWord (c : Char) : Bool := ".=,[]\x7b\x7d \t\n#\"'".toList.contains c

def stepWord (s : Scan) (read : List Char) (c : Char) : Scan :=
  if c = ' ' && isDate read then s.enter (.dated read)
  else if endsWord c then (s.emit (.word read.reverse)).stepBetween c
  else s.enter (.word (c :: read))

def stepLine (s : Scan) (quote : Char) (read : List Char) (c : Char) : Scan :=
  if c = quote then s.emitText read false
  else if isControl c then s.fail
  else if c = '\\' && quote = '"' then s.enter (.escape false read)
  else s.enter (.line quote (c :: read))

def stepBlock (s : Scan) (quote : Char) (read : List Char) (quotes : Nat) (c : Char) : Scan :=
  if c = quote then
    if quotes = 4 then s.emitText (quote :: quote :: read) true
    else s.enter (.block quote read (quotes + 1))
  else if 3 ≤ quotes then
    (s.emitText (List.replicate (quotes - 3) quote ++ read) true).stepBetween c
  else
    let read := List.replicate quotes quote ++ read
    if isControl c && c ≠ '\n' then s.fail
    else if c = '\\' && quote = '"' then s.enter (.escape true read)
    else s.enter (.block quote (c :: read) 0)

def stepEscape (s : Scan) (isBlock : Bool) (read : List Char) (c : Char) : Scan :=
  match escaped? c, unitLength? c with
  | some e, _ => s.resume isBlock (e :: read)
  | none, some left => s.enter (.unit isBlock read 0 left)
  | none, none =>
    if isBlock && (c = ' ' || c = '\t') then s.enter (.lineEnd read)
    else if isBlock && c = '\n' then s.enter (.skip read)
    else s.fail

def stepUnit (s : Scan) (isBlock : Bool) (read : List Char) (value left : Nat) (c : Char) : Scan :=
  match Text.Hex.value? c with
  | none => s.fail
  | some digit =>
    let value := value * 16 + digit
    if left ≠ 1 then s.enter (.unit isBlock read value (left - 1))
    else if value.isValidChar then s.resume isBlock (Char.ofNat value :: read)
    else s.fail

/-- A character, where line breaks are line feeds. -/
def stepChar (s : Scan) (c : Char) : Scan :=
  match s.mode with
  | .between => s.stepBetween c
  | .comment =>
    if c = '\n' then s.stepBetween c else if isControl c then s.fail else s
  | .word read => s.stepWord read c
  | .dated read =>
    if c.isDigit then s.enter (.word (c :: ' ' :: read))
    else ((s.emit (.word read.reverse)).emitBlank).stepBetween c
  | .opened quote => if c = quote then s.enter (.openedTwice quote) else s.stepLine quote [] c
  | .openedTwice quote =>
    if c = quote then s.enter (.blockStart quote) else (s.emitText [] false).stepBetween c
  | .line quote read => s.stepLine quote read c
  | .blockStart quote =>
    if c = '\n' then s.enter (.block quote [] 0) else s.stepBlock quote [] 0 c
  | .block quote read quotes => s.stepBlock quote read quotes c
  | .escape isBlock read => s.stepEscape isBlock read c
  | .unit isBlock read value left => s.stepUnit isBlock read value left c
  | .lineEnd read =>
    if c = '\n' then s.enter (.skip read) else if c = ' ' || c = '\t' then s else s.fail
  | .skip read =>
    if c = '\n' || c = ' ' || c = '\t' then s else s.stepBlock '"' read 0 c
  | .stuck => s

/-- A carriage return together with its line feed. -/
def stepReturn (s : Scan) : Scan :=
  match s.mode with
  | .block quote read quotes =>
    if quotes < 3 then
      s.enter (.block quote ('\n' :: '\x0d' :: (List.replicate quotes quote ++ read)) 0)
    else s.stepChar '\n'
  | _ => s.stepChar '\n'

def step (s : Scan) (c : Char) : Scan :=
  if s.returned then
    if c = '\n' then { s with returned := false }.stepReturn
    else { s with returned := false }.fail
  else if c = '\x0d' then { s with returned := true }
  else s.stepChar c

/-- End of the text. -/
def finish (s : Scan) : List Token :=
  if s.returned then s.fail.tokens.reverse
  else match s.mode with
    | .between | .comment | .stuck => s.tokens.reverse
    | .word read | .dated read => (s.emit (.word read.reverse)).tokens.reverse
    | .openedTwice _ => (s.emitText [] false).tokens.reverse
    | .block quote read quotes =>
      if 3 ≤ quotes then
        (s.emitText (List.replicate (quotes - 3) quote ++ read) true).tokens.reverse
      else s.fail.tokens.reverse
    | _ => s.fail.tokens.reverse

end Scan

/-- A byte order mark in front does not count. -/
def tokens (text : String) : List Token :=
  let cs := text.toList
  ((if cs.head? = some '\uFEFF' then cs.drop 1 else cs).foldl Scan.step {}).finish

end GuidedTour.Toml
