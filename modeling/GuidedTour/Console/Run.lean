import GuidedTour.Config.Load
import GuidedTour.Console.Arguments
import GuidedTour.Console.Report
import GuidedTour.Service.Server
import GuidedTour.Script.Load
import GuidedTour.Snapshot.Load

/-! Running a command over a folder of files, which are plain (`Files`). Only a replay that saves
writes a file, and that is the last that can fail: on a full disk the file is left cut short. -/
namespace GuidedTour.Console

inductive Fault where
  | config (fault : Config.Fault)
  | script (fault : Script.LoadFault)
  | snapshot (fault : Snapshot.LoadFault)
  | save (fault : Files.WriteFault)
  | start (fault : Service.StartFault)
  /-- The host cannot be a host name. -/
  | bind (fault : Files.Fault)
  deriving DecidableEq, Repr

def Fault.message : Fault → String
  | config fault => fault.message
  | script fault => fault.message
  | snapshot fault => fault.message
  | save fault => fault.message
  | start (.unknownFeature unknown) => unknown.message
  | start .wildcardListed => "Configuration error: a wildcard is one of several origins"
  | bind fault => "I/O error: Bind failed: " ++ fault.message

/-- What a run printed, how it failed, and the files after it. -/
structure Result where
  printed : String
  fault : Option Fault := none
  files : Files
  /-- The server that is to listen from now on, and where. -/
  serving : Option (Service.Host × String × Nat) := none

/-- A replay: the log, and the tour after it. -/
structure Replay where
  log : List Script.Entry
  final : Tour

/-- Replays a script over a fresh session, or over a saved one. -/
def replay (files : Files) (script : String) (resume : Option String) : Except Fault Replay := do
  let steps ← (Script.load files script).mapError .script
  let t ← match resume with
    | some path => (Snapshot.load .builtin files path).mapError .snapshot
    | none => pure (Tour.enter .builtin)
  let (log, final) := Script.replay t steps
  return ⟨log, final⟩

/-- Saves the final state, if it is to be saved. -/
def keep (files : Files) (save : Option String) (final : Tour) : Option Fault × Files :=
  match save with
  | some path =>
    let (fault, files) := files.write path (Snapshot.content final.session)
    (fault.map .save, files)
  | none => (none, files)

def runReplay (files : Files) (asJson verbose : Bool) (script : String)
    (resume save : Option String) : Result :=
  match replay files script resume with
  | .error fault => ⟨"", some fault, files, none⟩
  | .ok r =>
    let lines := if asJson then "" else unlines (Report.replayLines verbose r.log)
    match keep files save r.final with
    | (some fault, files) => ⟨lines, some fault, files, none⟩
    | (none, files) =>
      let record := r.final.session.record
      let report := if asJson then document (Report.replayJson r.log record)
        else "\n" ++ Report.progress record false
      ⟨lines ++ report, none, files, none⟩

def runProgress (files : Files) (asJson : Bool) (snapshot : String) : Result :=
  match Snapshot.load .builtin files snapshot with
  | .error fault => ⟨"", some (.snapshot fault), files, none⟩
  | .ok t => ⟨Report.progress t.session.record asJson, none, files, none⟩

/-- Arguments win over settings. A host name may not hold the character with the number zero. -/
def runServer (files : Files) (config : Config) (host : Option String) (port : Option Nat) :
    Result :=
  let config := { config with host := host.getD config.host, port := port.getD config.port }
  let greeting := Report.greeting config
  match Service.Host.start .builtin config with
  | .error fault => ⟨greeting, some (.start fault), files, none⟩
  | .ok server =>
    if config.host.toList.contains '\x00' then ⟨greeting, some (.bind .zeroInName), files, none⟩
    else ⟨greeting, none, files, some (server, config.host, config.port)⟩

/-- Settings are loaded before anything else, whatever the command. -/
def run (files : Files) (env : Environment) (i : Invocation) : Result :=
  match Config.load files env i.config with
  | .error fault => ⟨"", some (.config fault), files, none⟩
  | .ok config =>
    match i.command with
    | .validate => ⟨Report.validation .builtin i.jsonMode, none, files, none⟩
    | .machines => ⟨Report.machines .builtin i.jsonMode, none, files, none⟩
    | .server host port => runServer files config host port
    | .replay script resume save => runReplay files i.jsonMode i.verbose script resume save
    | .progress snapshot => runProgress files i.jsonMode snapshot

end GuidedTour.Console
