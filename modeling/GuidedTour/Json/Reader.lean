import GuidedTour.Json.Basic
import GuidedTour.Json.Token

/-! Reading JSON against the shape that is expected. Tokens are taken in order, and
the first fault decides: the text stops being JSON, or a value does not fit. A
record is an object with known fields; other fields are passed over whatever they
hold, a known field may come only once, and the fields may also be listed in their
order without names. -/
namespace GuidedTour.Json

inductive Fault where
  /-- The text is no JSON document. -/
  | malformed
  /-- A value is not of the shape expected at its place. -/
  | mismatch
  deriving DecidableEq, Repr

inductive Shape where
  /-- Any value, nested no deeper than `maxDepth`. -/
  | any
  /-- Any value, which is passed over. -/
  | ignored
  | text
  | flag
  | list (item : Shape)
  /-- `null`, or a value of the shape. -/
  | optional (shape : Shape)
  deriving DecidableEq, Repr

structure Field where
  name : String
  shape : Shape
  required : Bool := false
  deriving DecidableEq, Repr

/-- Lists and objects may be nested this deep. -/
def maxDepth : Nat := 127

/-- A list or object that is still open; what it holds so far, last first. -/
inductive Frame where
  | items (item : Shape) (read : List Json)
  /-- A record written as a list; the fields still to come stand first. -/
  | listed (ahead : List Field) (read : List (String × Json))
  | object (key : String) (read : List (String × Json))
  | record (fields : List Field) (key : String) (read : List (String × Json))
  | ignoredItems
  | ignoredObject

inductive Phase where
  /-- A value of this shape has to come. -/
  | value (shape : Shape)
  /-- A record has to come. -/
  | record (fields : List Field)
  /-- A list was opened: an item or its end. -/
  | firstItem
  | nextItem
  | afterItem
  /-- An object was opened: a key or its end. -/
  | firstKey
  | nextKey
  /-- A colon has to come, and then a value of this shape. -/
  | colon (shape : Shape)
  | afterField
  | done (value : Json)

structure Reading where
  phase : Phase
  /-- Open lists and objects, innermost first. -/
  stack : List Frame := []

/-- A token that a value starts with. -/
def Token.startsValue : Token → Bool
  | null | flag _ | openList | openObject | text (some _) => true
  | number lexeme => Number.inRange lexeme
  | _ => false

/-- A value came where another shape is expected. -/
def faultAt (token : Token) : Fault :=
  if token.startsValue then .mismatch else .malformed

/-- A value is complete; nothing stands for one that was passed over. -/
def deliver (value : Option Json) : List Frame → Reading
  | [] => ⟨.done (value.getD .null), []⟩
  | .items item read :: stack => ⟨.afterItem, .items item (value.toList ++ read) :: stack⟩
  | .listed [] read :: stack => ⟨.afterItem, .listed [] read :: stack⟩
  | .listed (field :: ahead) read :: stack =>
    ⟨.afterItem, .listed ahead (value.toList.map (field.name, ·) ++ read) :: stack⟩
  | .object key read :: stack =>
    ⟨.afterField, .object key (value.toList.map (key, ·) ++ read) :: stack⟩
  | .record fields key read :: stack =>
    ⟨.afterField, .record fields key (value.toList.map (key, ·) ++ read) :: stack⟩
  | .ignoredItems :: stack => ⟨.afterItem, .ignoredItems :: stack⟩
  | .ignoredObject :: stack => ⟨.afterField, .ignoredObject :: stack⟩

/-- Opens a list or object, unless too many are open already. -/
def openFrame (stack : List Frame) (phase : Phase) (frame : Frame) : Except Fault Reading :=
  if stack.length < maxDepth then .ok ⟨phase, frame :: stack⟩ else .error .malformed

def startValue (stack : List Frame) (shape : Shape) (token : Token) : Except Fault Reading :=
  match shape with
  | .any =>
    match token with
    | .null => .ok (deliver (some .null) stack)
    | .flag b => .ok (deliver (some (.flag b)) stack)
    | .number lexeme =>
      if Number.inRange lexeme then .ok (deliver (some (.number (String.ofList lexeme))) stack)
      else .error .malformed
    | .text (some s) => .ok (deliver (some (.text s)) stack)
    | .openList => openFrame stack .firstItem (.items .any [])
    | .openObject => openFrame stack .firstKey (.object "" [])
    | _ => .error .malformed
  | .ignored =>
    match token with
    | .null | .flag _ | .number _ | .text _ => .ok (deliver none stack)
    | .openList => .ok ⟨.firstItem, .ignoredItems :: stack⟩
    | .openObject => .ok ⟨.firstKey, .ignoredObject :: stack⟩
    | _ => .error .malformed
  | .text =>
    match token with
    | .text (some s) => .ok (deliver (some (.text s)) stack)
    | _ => .error (faultAt token)
  | .flag =>
    match token with
    | .flag b => .ok (deliver (some (.flag b)) stack)
    | _ => .error (faultAt token)
  | .list item =>
    match token with
    | .openList => openFrame stack .firstItem (.items item [])
    | _ => .error (faultAt token)
  | .optional shape =>
    match token with
    | .null => .ok (deliver (some .null) stack)
    | _ => startValue stack shape token

/-- Starts the next item of the innermost list. -/
def startItem (stack : List Frame) (token : Token) : Except Fault Reading :=
  match stack with
  | .items item _ :: _ => startValue stack item token
  | .listed (field :: _) _ :: _ => startValue stack field.shape token
  | .ignoredItems :: _ => startValue stack .ignored token
  | _ => .error .malformed

/-- A record has to have its required fields. -/
def closeRecord (stack : List Frame) (complete : Bool) (read : List (String × Json)) :
    Except Fault Reading :=
  if complete then .ok (deliver (some (.object read.reverse)) stack) else .error .mismatch

def closeList (stack : List Frame) : Except Fault Reading :=
  match stack with
  | .items _ read :: stack => .ok (deliver (some (.list read.reverse)) stack)
  | .listed ahead read :: stack => closeRecord stack (ahead.all (!·.required)) read
  | .ignoredItems :: stack => .ok (deliver none stack)
  | _ => .error .malformed

def closeObject (stack : List Frame) : Except Fault Reading :=
  match stack with
  | .object _ read :: stack => .ok (deliver (some (.object read.reverse)) stack)
  | .record fields _ read :: stack =>
    closeRecord stack (fields.all fun f => !f.required || read.any (·.1 == f.name)) read
  | .ignoredObject :: stack => .ok (deliver none stack)
  | _ => .error .malformed

/-- A key in the innermost object. Only a key that is passed over may hold half a pair. -/
def readKey (stack : List Frame) (key : Option String) : Except Fault Reading :=
  match stack, key with
  | .ignoredObject :: _, _ => .ok ⟨.colon .ignored, stack⟩
  | .object _ read :: stack, some key => .ok ⟨.colon .any, .object key read :: stack⟩
  | .record fields _ read :: stack, some key =>
    match fields.find? (·.name == key) with
    | none => .ok ⟨.colon .ignored, .record fields key read :: stack⟩
    | some field =>
      if read.any (·.1 == key) then .error .mismatch
      else .ok ⟨.colon field.shape, .record fields key read :: stack⟩
  | _, _ => .error .malformed

namespace Reading

def step (r : Reading) (token : Token) : Except Fault Reading :=
  match r.phase, token with
  | .value shape, token => startValue r.stack shape token
  | .record fields, .openObject => openFrame r.stack .firstKey (.record fields "" [])
  | .record fields, .openList => openFrame r.stack .firstItem (.listed fields [])
  | .record _, token => .error (faultAt token)
  | .firstItem, .closeList => closeList r.stack
  | .firstItem, token => startItem r.stack token
  | .nextItem, token => startItem r.stack token
  | .afterItem, .closeList => closeList r.stack
  | .afterItem, .comma => .ok ⟨.nextItem, r.stack⟩
  | .firstKey, .closeObject => closeObject r.stack
  | .firstKey, .text key => readKey r.stack key
  | .nextKey, .text key => readKey r.stack key
  | .colon shape, .colon => .ok ⟨.value shape, r.stack⟩
  | .afterField, .closeObject => closeObject r.stack
  | .afterField, .comma => .ok ⟨.nextKey, r.stack⟩
  | _, _ => .error .malformed

/-- The document has to end where its value ends. -/
def finish (r : Reading) : Except Fault Json :=
  match r.phase with
  | .done value => .ok value
  | _ => .error .malformed

end Reading

def readFrom (phase : Phase) (text : String) : Except Fault Json := do
  let r ← (tokens text).foldlM Reading.step ⟨phase, []⟩
  r.finish

/-- Reads a document that holds any value. -/
def parse? (text : String) : Option Json :=
  match readFrom (.value .any) text with
  | .ok j => some j
  | .error _ => none

/-- Reads a document that holds a record, as its known fields. -/
def readRecord (fields : List Field) (text : String) : Except Fault (List (String × Json)) := do
  match ← readFrom (.record fields) text with
  | .object read => .ok read
  | _ => .error .mismatch

end GuidedTour.Json
