import GuidedTour.Files.Basic
import GuidedTour.Script.Basic
import GuidedTour.Text.Utf8

/-! Loading a script from a file. -/
namespace GuidedTour

namespace Script

def maxFileBytes : Nat := 4194304

inductive LoadFault where
  | file (fault : Files.ReadFault)
  | notText (fault : Text.Utf8.Fault)
  | script (fault : Fault)
  deriving DecidableEq, Repr

def LoadFault.message : LoadFault → String
  | file fault => fault.message
  | notText fault => "Deserialization error: Script is not UTF-8: " ++ fault.message
  | script fault => fault.message

def load (files : Files) (path : String) : Except LoadFault (List Step) := do
  let bytes ← (files.read maxFileBytes path).mapError .file
  let text ← (Text.Utf8.decode bytes).mapError .notText
  (parse text).mapError .script

end Script

end GuidedTour
