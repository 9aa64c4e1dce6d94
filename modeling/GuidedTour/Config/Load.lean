import GuidedTour.Config.Document
import GuidedTour.Files.Basic
import GuidedTour.Text.Utf8

/-! Loading settings: those of a file, or the defaults, under the environment. -/
namespace GuidedTour.Config

def maxFileBytes : Nat := 1048576

inductive Fault where
  | unreadable (path : String) (fault : Files.Fault)
  | notText (path : String)
  | tooLarge (bytes : Nat)
  | document (fault : DocumentFault)
  deriving DecidableEq, Repr

def Fault.message : Fault → String
  | unreadable path fault => "I/O error: Cannot read config '" ++ path ++ "': " ++ fault.message
  | notText path =>
    "I/O error: Cannot read config '" ++ path ++ "': stream did not contain valid UTF-8"
  | tooLarge bytes =>
    "Configuration error: Config file of " ++ toString bytes ++ " bytes exceeds maximum " ++
      toString maxFileBytes ++ " bytes"
  | document .invalid => "Configuration error: not a document of settings"
  | document (.unknownFeature unknown) => unknown.message

def ofFile (files : Files) (path : String) : Except Fault Config :=
  match files.openFile path with
  | .error fault => .error (.unreadable path fault)
  | .ok .folder => .error (.unreadable path .isFolder)
  | .ok (.file content) =>
    if maxFileBytes < content.size then .error (.tooLarge content.size)
    else match String.fromUTF8? content with
      | none => .error (.notText path)
      | some text => (parse text).mapError .document

/-- The settings that a run starts with. -/
def load (files : Files) (env : Environment) (path : Option String) : Except Fault Config := do
  let config ← match path with
    | some path => ofFile files path
    | none => pure {}
  return config.override env

end GuidedTour.Config
