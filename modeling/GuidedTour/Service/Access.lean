/-! Who may call: the key that a request has to show, and the origins that a browser may
call from. -/
namespace GuidedTour.Service

/-- The bytes of a text, filled up with zeros. -/
def padded (length : Nat) (s : String) : List UInt8 :=
  let bytes := s.toUTF8.data.toList
  bytes ++ List.replicate (length - bytes.length) 0

/-- Compares two keys in a time that does not tell where they differ: both are filled up
to one length, all their bytes are compared, and the lengths as well. -/
def keysMatch (provided expected : String) : Bool :=
  let length := max provided.utf8ByteSize expected.utf8ByteSize
  let differences := (padded length provided).zipWith (· ^^^ ·) (padded length expected)
  differences.foldl (· ||| ·) 0 == 0 && provided.utf8ByteSize == expected.utf8ByteSize

/-- Characters that a credential may be spelled with. -/
def isVisible (c : Char) : Bool := (' ' ≤ c && c ≤ '~') || c = '\t'

/-- What is left of a credential without the word in front of it. -/
def withoutScheme (credential : String) : String :=
  let scheme := "Bearer ".toList
  if scheme.isPrefixOf credential.toList then
    String.ofList (credential.toList.drop scheme.length)
  else credential

/-- A credential shows the key, alone or after the word `Bearer`. -/
def admits (key : String) (credential : Option String) : Bool :=
  match credential with
  | some c => c.toList.all isVisible && keysMatch (withoutScheme c) key
  | none => false

/-- The origins that browsers may call from. -/
inductive Origins where
  | any
  | listed (origins : List String)
  deriving DecidableEq, Repr

namespace Origins

/-- Stands for every origin, but only where it is the only entry. -/
def wildcard : String := "*"

def localMachine : List String :=
  ["http://localhost:4200", "http://localhost:8080", "http://127.0.0.1:4200",
    "http://127.0.0.1:8080"]

/-- An origin that can be sent: no control character but the tab. -/
def isSendable (origin : String) : Bool :=
  origin.toList.all fun c => (' ' ≤ c && c ≠ '\x7f') || c = '\t'

/-- The origins of a setting. Entries that cannot be sent are passed over, and without any
other entry the local machine remains. Nothing if the wildcard is one entry of several. -/
def ofSetting? : Option (List String) → Option Origins
  | none => some (listed localMachine)
  | some entries =>
    if entries = [wildcard] then some any
    else if entries.contains wildcard then none
    else
      let sendable := entries.filter isSendable
      some (listed (if sendable.isEmpty then localMachine else sendable))

/-- The origin that an answer names for a request from `origin`. -/
def allowed (origins : Origins) (origin : Option String) : Option String :=
  match origins with
  | any => some wildcard
  | listed entries => origin.filter entries.contains

end Origins

end GuidedTour.Service
