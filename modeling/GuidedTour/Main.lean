import GuidedTour.Console.Run

/-! The command line: it reads the files that the arguments name, runs the command, prints,
and writes the one file that a replay may save. -/
namespace GuidedTour.Console

/-- The names that a path spells, from the root and innermost first. -/
def namesOf (workFolder : List String) (path : String) : List String :=
  (Text.pieces '/' path.toList).foldl
    (fun names piece =>
      if Path.isIdle piece then names
      else if piece = ['.', '.'] then names.drop 1
      else String.ofList piece :: names)
    (if path.toList.head? = some '/' then [] else workFolder)

def pathOf (names : List String) : String := "/" ++ "/".intercalate names.reverse

/-- Paths that a command reads, and folders that it may write to. -/
def Invocation.paths (i : Invocation) : List String :=
  i.config.toList ++ match i.command with
    | .replay script resume save =>
      script :: resume.toList ++ (save.map fun path => [path, Path.parent path]).getD []
    | .progress snapshot => [snapshot]
    | _ => []

/-- What really stands under some names. -/
def fetch (names : List String) : IO (Option Files.Entry) := do
  try
    return some (.file (← IO.FS.readBinFile (pathOf names)))
  catch _ =>
    let place ← IO.FS.realPath (pathOf names)
    return if ← place.isDir then some .folder else none

def gather (workFolder : List String) (paths : List String) : IO Files := do
  let mut files : Files := { workFolder }
  for path in paths do
    let names := namesOf workFolder path
    match ← fetch names with
    | some entry => files := files.insert names entry
    | none => pure ()
  return files

def environment : IO Environment := do
  return {
    apiKey := ← IO.getEnv "VAULT_WIZARD_API_KEY"
    rateLimit := ← IO.getEnv "VAULT_WIZARD_RATE_LIMIT"
    corsOrigins := ← IO.getEnv "VAULT_WIZARD_CORS_ORIGINS" }

/-- Writes the files that a run left with other content. -/
def store (before after : Files) : IO Unit := do
  for (names, entry) in after.entries do
    match entry with
    | .file content =>
      if before.find? names ≠ some entry then IO.FS.writeBinFile (pathOf names) content
    | .folder => pure ()

def usage : String :=
  unlines [
    "Usage: vault-wizard [OPTIONS] [COMMAND]",
    "",
    "Commands:",
    "  server    -H, --host <HOST>  -p, --port <PORT>",
    "  machines",
    "  validate",
    "  replay    -s, --script <SCRIPT>  --resume <SNAPSHOT>  --save <SNAPSHOT>",
    "  progress  -s, --snapshot <SNAPSHOT>",
    "",
    "Options: -v, --verbose  -q, --quiet  -c, --config <CONFIG>  --json-mode  -h, --help  -V, --version"]

def invoke (i : Invocation) : IO UInt32 := do
  if !i.quiet && !i.jsonMode then IO.print Report.banner
  let workFolder := namesOf [] (← IO.currentDir).toString
  let files ← gather workFolder i.paths
  let r := run files (← environment) i
  IO.print r.printed
  store files r.files
  match r.fault, r.serving with
  | some fault, _ =>
    IO.eprintln ("Error: " ++ fault.message)
    return 1
  | none, some _ =>
    IO.eprintln "Error: this build has no network listener"
    return 1
  | none, none => return 0

/-- Runs the command that the arguments ask for, or tells why they ask for none. -/
def start (args : List String) : IO UInt32 := do
  match Invocation.parse args with
  | .ok i => invoke i
  | .error .help =>
    IO.print usage
    return 0
  | .error .version =>
    IO.println ("vault-wizard " ++ releaseVersion)
    return 0
  | .error .usage =>
    IO.eprint usage
    return 2

end GuidedTour.Console

def main (args : List String) : IO UInt32 := GuidedTour.Console.start args
