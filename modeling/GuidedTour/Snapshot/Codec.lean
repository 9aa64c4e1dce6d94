import GuidedTour.Snapshot.Varint
import GuidedTour.Session

/-! The payload of a snapshot: the parts of a written session one after the other.
Text, lists, sets and maps start with their length; sets and maps are written in
the order of their keys, and read in any order, the last entry of a key counting. -/
namespace GuidedTour.Snapshot

def encodeText (s : String) : List UInt8 :=
  let bytes := s.toUTF8.data.toList
  Varint.encode bytes.length ++ bytes

def encodeFlag (b : Bool) : List UInt8 := [if b then 1 else 0]

def encodeOption (encode : α → List UInt8) : Option α → List UInt8
  | none => [0]
  | some a => 1 :: encode a

def encodeList (encode : α → List UInt8) (as : List α) : List UInt8 :=
  Varint.encode as.length ++ as.flatMap encode

def encodeFeature (f : Feature) : List UInt8 := Varint.encode f.index

def encodeMounted (entry : Region × String) : List UInt8 :=
  Varint.encode entry.1.index ++ encodeText entry.2

def encodeRoute (r : Route) : List UInt8 :=
  encodeText r.name ++ encodeList encodeText r.params

def encodePayload (r : Record) : List UInt8 :=
  encodeText r.tutorial
    ++ encodeOption encodeFeature r.machine
    ++ encodeOption encodeText r.state
    ++ encodeList encodeText r.history
    ++ encodeList encodeFeature r.completed.toList
    ++ encodeList encodeFeature r.plan
    ++ encodeOption encodeText r.params.mountType
    ++ encodeList encodeMounted r.screen.toList
    ++ encodeFlag r.shownBeforeLogin
    ++ encodeOption encodeRoute r.route
    ++ encodeOption encodeRoute r.resumeRoute

/-- The first `n` bytes, last first, and the bytes after them. -/
def splitBytes : Nat → List UInt8 → List UInt8 → Option (List UInt8 × List UInt8)
  | 0, taken, rest => some (taken, rest)
  | _ + 1, _, [] => none
  | n + 1, taken, b :: rest => splitBytes n (b :: taken) rest

def takeBytes (n : Nat) : Decoder (List UInt8) := fun bytes =>
  match splitBytes n [] bytes with
  | some (taken, rest) => .ok (taken.reverse, rest)
  | none => .error .unexpectedEnd

def decodeText : Decoder String := do
  let bytes ← takeBytes (← Varint.decode64)
  match String.fromUTF8? ⟨bytes.toArray⟩ with
  | some s => return s
  | none => refuse .badText

def decodeFlag : Decoder Bool := do
  match (← nextByte).toNat with
  | 0 => return false
  | 1 => return true
  | _ => refuse .badFlag

def decodeOption (decode : Decoder α) : Decoder (Option α) := do
  match (← nextByte).toNat with
  | 0 => return none
  | 1 => return some (← decode)
  | _ => refuse .badOption

/-- So many more items, after those read already, which stand last first. -/
def decodeItems (decode : Decoder α) : Nat → List α → Decoder (List α)
  | 0, read => return read.reverse
  | n + 1, read => do decodeItems decode n ((← decode) :: read)

def decodeList (decode : Decoder α) : Decoder (List α) := do
  decodeItems decode (← Varint.decode64) []

/-- The item of a fixed order that has the number read. -/
def decodeIndex (ofIndex? : Nat → Option α) : Decoder α := do
  match ofIndex? (← Varint.decode32) with
  | some a => return a
  | none => refuse .badIndex

def decodeFeature : Decoder Feature := decodeIndex Feature.ofIndex?

def decodeMounted : Decoder (Region × String) := do
  return (← decodeIndex Region.ofIndex?, ← decodeText)

def decodeRoute : Decoder Route := do
  return { name := ← decodeText, params := ← decodeList decodeText }

def decodePayload : Decoder Record := do
  return {
    tutorial := ← decodeText
    machine := ← decodeOption decodeFeature
    state := ← decodeOption decodeText
    history := ← decodeList decodeText
    completed := .ofList (← decodeList decodeFeature)
    plan := ← decodeList decodeFeature
    params := ⟨← decodeOption decodeText⟩
    screen := .ofList (← decodeList decodeMounted)
    shownBeforeLogin := ← decodeFlag
    route := ← decodeOption decodeRoute
    resumeRoute := ← decodeOption decodeRoute }

end GuidedTour.Snapshot
