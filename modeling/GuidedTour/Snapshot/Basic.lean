import GuidedTour.Snapshot.Codec

/-! Snapshots: a header that names the format, then the payload. Size and header are
checked before the payload is read, and bytes after the payload do not count.
Whether the session fits a registry is a separate question. -/
namespace GuidedTour.Snapshot

/-- No session that an operator can reach comes near this size. -/
def maxSize : Nat := 65536

def magicBytes : List UInt8 := [0x56, 0x57, 0x49, 0x5A]

def formatVersion : UInt8 := 1

inductive Fault where
  | tooLarge (size : Nat)
  | headerTooShort
  | badMagic
  | unsupportedVersion (version : UInt8)
  | payload (fault : PayloadFault)
  deriving DecidableEq, Repr

def Fault.reason : Fault → String
  | tooLarge size =>
    "Snapshot of " ++ toString size ++ " bytes exceeds maximum allowed " ++
      toString maxSize ++ " bytes"
  | headerTooShort => "Header too short"
  | badMagic => "Invalid magic bytes"
  | unsupportedVersion version =>
    "Unsupported version: " ++ toString version.toNat ++ " (expected " ++
      toString formatVersion.toNat ++ ")"
  | payload fault => "Failed to decode wizard state: " ++ fault.reason

def Fault.message (f : Fault) : String := "Deserialization error: " ++ f.reason

/-- The bytes in front of the payload. -/
structure Header where
  magic : List UInt8 := magicBytes
  version : UInt8 := formatVersion
  deriving DecidableEq, Repr

namespace Header

def toBytes (h : Header) : List UInt8 := h.magic ++ [h.version]

def fault? (h : Header) : Option Fault :=
  if h.magic ≠ magicBytes then some .badMagic
  else if h.version ≠ formatVersion then some (.unsupportedVersion h.version)
  else none

/-- The header and the bytes after it. -/
def split? : List UInt8 → Option (Header × List UInt8)
  | a :: b :: c :: d :: version :: rest => some (⟨[a, b, c, d], version⟩, rest)
  | _ => none

/-- Reads the header at the front. -/
def ofBytes (bytes : List UInt8) : Except Fault Header :=
  match split? bytes with
  | some (h, _) => .ok h
  | none => .error .headerTooShort

end Header

def encode (r : Record) : List UInt8 := Header.toBytes {} ++ encodePayload r

def decode (bytes : List UInt8) : Except Fault Record :=
  if maxSize < bytes.length then .error (.tooLarge bytes.length)
  else match Header.split? bytes with
    | none => .error .headerTooShort
    | some (h, rest) =>
      match h.fault? with
      | some fault => .error fault
      | none =>
        match decodePayload rest with
        | .ok (record, _) => .ok record
        | .error fault => .error (.payload fault)

end GuidedTour.Snapshot
