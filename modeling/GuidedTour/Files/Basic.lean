import GuidedTour.Files.Path

/-! A tree of files, seen from a working folder in it. Names are looked up one after the
other, and the first that leads nowhere is the fault. The tree holds plain files and folders and
nothing else: no links, no special files, and no permissions that could be missing. A file that is
written loses what it held first, and the disk may have no room for all that is to follow. -/
namespace GuidedTour

inductive Files.Entry where
  | file (content : ByteArray)
  | folder

instance : DecidableEq Files.Entry
  | .file left, .file right =>
    decidable_of_iff (left.data = right.data) ⟨fun h => by cases left; cases h; rfl, fun h => by cases h; rfl⟩
  | .file _, .folder => .isFalse nofun
  | .folder, .file _ => .isFalse nofun
  | .folder, .folder => .isTrue rfl

/-- Entries by the names that lead to them from the root, innermost first. The working
folder and the folders above it are always there. -/
structure Files where
  workFolder : List String := []
  entries : List (List String × Files.Entry) := []
  /-- Bytes that the disk has room for when a file is written; it may have room for all. -/
  room : Option Nat := none

namespace Files

inductive Fault where
  | notFound
  | notFolder
  | isFolder
  | nameTooLong
  /-- A name may not hold the character with the number zero. -/
  | zeroInName
  | noSpace
  deriving DecidableEq, Repr

def Fault.message : Fault → String
  | notFound => "No such file or directory (os error 2)"
  | notFolder => "Not a directory (os error 20)"
  | isFolder => "Is a directory (os error 21)"
  | nameTooLong => "File name too long (os error 36)"
  | zeroInName => "file name contained an unexpected NUL byte"
  | noSpace => "No space left on device (os error 28)"

def maxNameBytes : Nat := 255

/-- Bytes of a path that is opened as it is typed. -/
def maxPathBytes : Nat := 4095

def find? (files : Files) (names : List String) : Option Entry :=
  if names.isSuffixOf files.workFolder then some .folder else files.entries.lookup names

def putEntry (names : List String) (entry : Entry) :
    List (List String × Entry) → List (List String × Entry)
  | [] => [(names, entry)]
  | (n, e) :: rest =>
    if n = names then (names, entry) :: rest else (n, e) :: putEntry names entry rest

/-- Replaces what stands under the names, or adds it. -/
def put (files : Files) (names : List String) (entry : Entry) : Files :=
  { files with entries := putEntry names entry files.entries }

/-- Adds what is missing of the folders that lead to some names. -/
def makeFolders (files : Files) : List String → Files
  | [] => files
  | name :: above =>
    let files := files.makeFolders above
    if (files.find? (name :: above)).isSome then files else files.put (name :: above) .folder

/-- Puts an entry, and the folders that lead to it. -/
def insert (files : Files) (names : List String) (entry : Entry) : Files :=
  (files.makeFolders (names.drop 1)).put names entry

theorem lookup_putEntry (names query : List String) (entry : Entry)
    (es : List (List String × Entry)) :
    (putEntry names entry es).lookup query =
      if query = names then some entry else es.lookup query := by
  induction es with
  | nil => by_cases h : query = names <;> simp [putEntry, List.lookup_cons, h, beq_false_of_ne]
  | cons e rest ih =>
    obtain ⟨n, v⟩ := e
    by_cases hn : n = names
    · subst hn
      by_cases h : query = n <;> simp [putEntry, List.lookup_cons, h, beq_false_of_ne]
    · by_cases h : query = n
      · subst h
        simp [putEntry, hn]
      · have hq : (query == n) = false := by simp [h]
        simp [putEntry, List.lookup_cons, hn, hq, ih]

theorem find?_put (files : Files) (names query : List String) (entry : Entry)
    (h : ¬query.isSuffixOf files.workFolder) :
    (files.put names entry).find? query =
      if query = names then some entry else files.find? query := by
  simp only [find?, put, h, lookup_putEntry]
  rfl

/-- One step from a place, which has to be a folder. The root is above itself. -/
def follow (files : Files) (names : List String) (piece : List Char) :
    Except Fault (List String) :=
  match files.find? names with
  | none => .error .notFound
  | some (.file _) => .error .notFolder
  | some .folder =>
    if Path.isIdle piece then .ok names
    else if piece = ['.', '.'] then .ok (names.drop 1)
    else if maxNameBytes < (String.ofList piece).utf8ByteSize then .error .nameTooLong
    else
      let names := String.ofList piece :: names
      if (files.find? names).isSome then .ok names else .error .notFound

/-- The names that a path leads to. -/
def resolve (files : Files) (path : String) : Except Fault (List String) :=
  let cs := path.toList
  if cs.contains '\x00' then .error .zeroInName
  else if cs.isEmpty then .error .notFound
  else (Text.pieces '/' cs).foldlM files.follow
    (if cs.head? = some '/' then [] else files.workFolder)

/-- What stands at the end of a path, which may be of any length. -/
def entryAt (files : Files) (path : String) : Except Fault Entry := do
  match files.find? (← files.resolve path) with
  | some entry => return entry
  | none => throw .notFound

/-- Opens a path as it is typed, without resolving it first. -/
def openFile (files : Files) (path : String) : Except Fault Entry :=
  if path.toList.contains '\x00' then .error .zeroInName
  else if maxPathBytes < path.utf8ByteSize then .error .nameTooLong
  else files.entryAt path

/-- Why a file of limited size cannot be read. -/
inductive ReadFault where
  | noPath (path : String) (fault : Fault)
  | notFile (path : String)
  | tooLarge (bytes largest : Nat)
  deriving DecidableEq, Repr

def ReadFault.message : ReadFault → String
  | noPath path fault => "I/O error: Invalid file path '" ++ path ++ "': " ++ fault.message
  | notFile path => "I/O error: Path '" ++ path ++ "' is not a regular file"
  | tooLarge bytes largest =>
    "I/O error: File size " ++ toString bytes ++ " bytes exceeds maximum allowed " ++
      toString largest ++ " bytes"

/-- Reads a file of at most `largest` bytes. The path is resolved before it is opened. -/
def read (files : Files) (largest : Nat) (path : String) : Except ReadFault ByteArray :=
  match files.entryAt path with
  | .error fault => .error (.noPath path fault)
  | .ok .folder => .error (.notFile path)
  | .ok (.file content) =>
    if largest < content.size then .error (.tooLarge content.size largest) else .ok content

/-- Why a file cannot be written. -/
inductive WriteFault where
  | noFolder (folder : String) (fault : Fault)
  | noName
  | refused (fault : Fault)
  deriving DecidableEq, Repr

def WriteFault.message : WriteFault → String
  | noFolder folder fault =>
    "I/O error: Invalid output directory '" ++ folder ++ "': " ++ fault.message
  | noName => "I/O error: Output path has no filename"
  | refused fault => "I/O error: Write snapshot: " ++ fault.message

/-- Where a file of a name would stand in a folder. -/
def target (files : Files) (folder : List String) (name : String) : Except Fault (List String) :=
  if name.toList.contains '\x00' then .error .zeroInName
  else match files.find? folder with
    | none => .error .notFound
    | some (.file _) => .error .notFolder
    | some .folder =>
      if maxNameBytes < name.utf8ByteSize then .error .nameTooLong
      else match files.find? (name :: folder) with
        | some .folder => .error .isFolder
        | _ => .ok (name :: folder)

/-- Where a path is written to: to its last name, in a folder that is already there. -/
def outlet (files : Files) (path : String) : Except WriteFault (List String) := do
  let folder ← (files.resolve (Path.parent path)).mapError (.noFolder (Path.parent path))
  match Path.fileName? path with
  | none => throw .noName
  | some name => (files.target folder name).mapError .refused

/-- What the disk takes of a file. -/
def taken (files : Files) (content : ByteArray) : ByteArray :=
  match files.room with
  | some bytes => content.extract 0 bytes
  | none => content

/-- Writes a file, and tells why that failed, if it did. Opening it has cut it to nothing, so a
write that fails later leaves what was taken until then. -/
def write (files : Files) (path : String) (content : ByteArray) : Option WriteFault × Files :=
  match files.outlet path with
  | .error fault => (some fault, files)
  | .ok names =>
    let taken := files.taken content
    (if taken.size < content.size then some (.refused .noSpace) else none,
      files.put names (.file taken))

end Files

end GuidedTour
