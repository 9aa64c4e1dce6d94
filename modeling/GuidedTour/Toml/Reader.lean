import GuidedTour.Toml.Scalar
import GuidedTour.Toml.Token

/-! Reading a TOML document: a line is blank, a header, or a key with its value. Tokens are
taken in order, with the arrays and inline tables that are still open on a stack. -/
namespace GuidedTour.Toml

/-- Arrays and inline tables may be nested this deep, and a key may have so many parts. -/
def maxDepth : Nat := 80

structure Header where
  isRow : Bool
  path : List String
  name : String
  deriving DecidableEq, Repr

/-- What the lines so far say: the document without the table under the last header, and
that table. -/
structure Document where
  root : Value := .table .header []
  current : Value := .table .header []
  header : Option Header := none

namespace Document

/-- Puts the last table in its place. -/
def close (d : Document) : Option Value :=
  match d.header with
  | none => some d.current
  | some h =>
    if h.isRow then Value.defineRow h.path h.name d.current d.root
    else Value.defineTable h.path h.name d.current d.root

/-- Starts the table of a header. A table that was only passed through keeps what it holds. -/
def openTable (d : Document) (h : Header) : Option Document := do
  let root ← d.close
  let found := if h.isRow then none else Value.find? (h.path ++ [h.name]) root
  match found with
  | none => return ⟨root, .table .header [], some h⟩
  | some (.table .implied fields) => return ⟨root, .table .header fields, some h⟩
  | some _ => none

def define (d : Document) (path : List String) (name : String) (value : Value) :
    Option Document := do
  return { d with current := ← Value.define path name value d.current }

end Document

/-- The parts of a key: those before the last one, last first, and the last one. -/
structure Key where
  before : List String
  last : String
  deriving DecidableEq, Repr

def Key.path (k : Key) : List String := k.before.reverse

def Key.extend (parts : Option Key) (part : String) : Key :=
  match parts with
  | some k => ⟨k.last :: k.before, part⟩
  | none => ⟨[], part⟩

/-- An array or inline table that is still open. -/
inductive Frame where
  /-- Items last first. -/
  | array (items : List Value)
  /-- An inline table, and the key whose value comes next. -/
  | inlineTable (table : Value) (key : Key)

/-- Where a key stands. -/
inductive Place where
  | line
  | inlineTable (table : Value)
  | header (isRow : Bool)

inductive Phase where
  | lineStart
  /-- Only blanks until the line ends. -/
  | lineEnd
  /-- One opening bracket at the start of a line. -/
  | bracket
  /-- A part of a key has to come, after these. -/
  | key (place : Place) (parts : Option Key)
  | afterKey (place : Place) (parts : Key)
  /-- An equals sign has to come; the line was broken after the key. -/
  | equals (table : Value) (key : Key)
  /-- The first of two closing brackets. -/
  | rowEnd (header : Header)
  | value
  /-- Inside a value without quotes; characters last first. -/
  | scalar (read : List Char)
  /-- An item or the end of an array. -/
  | item
  | afterItem
  /-- A key or the end of an inline table. -/
  | field (table : Value)
  | afterField (table : Value)

structure Reading where
  document : Document := {}
  phase : Phase := .lineStart
  /-- Open arrays and inline tables, innermost first. -/
  stack : List Frame := []
  /-- The key of the line whose value is read. -/
  target : Key := ⟨[], ""⟩

def isBareKey (cs : List Char) : Bool := cs.all fun c => c.isAlphanum || c = '-' || c = '_'

/-- The part of a key that a token stands for. -/
def keyPart? : Token → Option String
  | .word cs => if isBareKey cs then some (String.ofList cs) else none
  | .text value false => some value
  | _ => none

namespace Reading

def enter (r : Reading) (phase : Phase) : Reading := { r with phase }

/-- A value is complete. -/
def deliver (r : Reading) (value : Value) : Option Reading :=
  match r.stack with
  | [] => do
    return { r with
      document := ← r.document.define r.target.path r.target.last value, phase := .lineEnd }
  | .array items :: stack =>
    some { r with stack := .array (value :: items) :: stack, phase := .afterItem }
  | .inlineTable table key :: stack => do
    let table ← Value.define key.path key.last value table
    return { r with stack, phase := .afterField table }

/-- Opens an array or inline table, unless too many are open already. The phase of an open
inline table holds it; the frame is put on the stack with its next key. -/
def nest (r : Reading) : Option Reading :=
  if r.stack.length < maxDepth then some r else none

/-- One more part of a key, unless it has too many already. -/
def addPart (r : Reading) (place : Place) (parts : Option Key) (token : Token) :
    Option Reading := do
  let key := Key.extend parts (← keyPart? token)
  if key.before.length < maxDepth then return r.enter (.afterKey place key) else none

/-- Lines may be broken inside of an inline table. -/
def inInlineTable (r : Reading) : Bool :=
  match r.stack with
  | .inlineTable .. :: _ => true
  | _ => false

/-- The key of an inline table is complete, and its value comes next. -/
def awaitValue (r : Reading) (table : Value) (key : Key) : Reading :=
  { r with stack := .inlineTable table key :: r.stack, phase := .value }

/-- A value starts. -/
def startValue (r : Reading) (token : Token) : Option Reading :=
  match token with
  | .text value _ => r.deliver (.text value)
  | .word cs => some (r.enter (.scalar cs.reverse))
  | .openBracket => do return { (← r.nest) with stack := .array [] :: r.stack, phase := .item }
  | .openBrace => do return (← r.nest).enter (.field (.table .inline []))
  | _ => none

def closeArray (r : Reading) : Option Reading :=
  match r.stack with
  | .array items :: stack => { r with stack }.deliver (.array items.reverse)
  | _ => none

/-- After a part of a key: a dot, or what comes after a key at its place. -/
def endKey (r : Reading) (place : Place) (parts : Key) (token : Token) : Option Reading :=
  match place, token with
  | place, .dot => some (r.enter (.key place (some parts)))
  | .line, .equals => some { r with target := parts, phase := .value }
  | .inlineTable table, .equals => some (r.awaitValue table parts)
  | .inlineTable table, .lineBreak => some (r.enter (.equals table parts))
  | .header true, .closeBracket => some (r.enter (.rowEnd ⟨true, parts.path, parts.last⟩))
  | .header false, .closeBracket => do
    let document ← r.document.openTable ⟨false, parts.path, parts.last⟩
    return { r with document, phase := .lineEnd }
  | _, _ => none

/-- A token, where no value without quotes is being read. -/
def stepPlain (r : Reading) (token : Token) : Option Reading :=
  match r.phase, token with
  | .lineStart, .blank | .lineStart, .lineBreak => some r
  | .lineStart, .openBracket => some (r.enter .bracket)
  | .lineStart, token => r.addPart .line none token
  | .lineEnd, .blank => some r
  | .lineEnd, .lineBreak => some (r.enter .lineStart)
  | .lineEnd, _ => none
  | .bracket, .openBracket => some (r.enter (.key (.header true) none))
  | .bracket, .blank => some (r.enter (.key (.header false) none))
  | .bracket, token => r.addPart (.header false) none token
  | .key _ _, .blank | .afterKey _ _, .blank => some r
  | .key place parts, token => r.addPart place parts token
  | .afterKey place parts, token => r.endKey place parts token
  | .equals _ _, .blank | .equals _ _, .lineBreak => some r
  | .equals table key, .equals => some (r.awaitValue table key)
  | .equals _ _, _ => none
  | .rowEnd header, .closeBracket => do
    return { r with document := ← r.document.openTable header, phase := .lineEnd }
  | .rowEnd _, _ => none
  | .value, .blank => some r
  | .value, .lineBreak => if r.inInlineTable then some r else none
  | .value, token => r.startValue token
  | .item, .blank | .item, .lineBreak | .afterItem, .blank | .afterItem, .lineBreak => some r
  | .item, .closeBracket | .afterItem, .closeBracket => r.closeArray
  | .item, token => r.startValue token
  | .afterItem, .comma => some (r.enter .item)
  | .afterItem, _ => none
  | .field _, .blank | .field _, .lineBreak => some r
  | .afterField _, .blank | .afterField _, .lineBreak => some r
  | .field table, .closeBrace | .afterField table, .closeBrace => r.deliver table
  | .field table, token => r.addPart (.inlineTable table) none token
  | .afterField table, .comma => some (r.enter (.field table))
  | .afterField _, _ => none
  | .scalar _, _ => none

def step (r : Reading) (token : Token) : Option Reading :=
  match r.phase, token with
  | .scalar read, .word cs => some (r.enter (.scalar (cs.reverse ++ read)))
  | .scalar read, .dot => some (r.enter (.scalar ('.' :: read)))
  | .scalar read, token => do
    (← r.deliver (← Scalar.ofChars? read.reverse)).stepPlain token
  | _, token => r.stepPlain token

end Reading

/-- Reads a document as a table. The end of the text ends its last line. -/
def parse? (text : String) : Option Value := do
  let r ← (tokens text).foldlM Reading.step {}
  let r ← r.step .lineBreak
  match r.phase with
  | .lineStart => r.document.close
  | _ => none

end GuidedTour.Toml
