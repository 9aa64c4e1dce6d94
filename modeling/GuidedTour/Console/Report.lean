import GuidedTour.Config.Basic
import GuidedTour.Progress
import GuidedTour.Release
import GuidedTour.Script.Described
import GuidedTour.Text.Padded
import GuidedTour.Wire.Record

/-! What is printed: lines for an operator to read, or one JSON document. -/
namespace GuidedTour.Console

/-- Each line with the line break that ends it. -/
def unlines (lines : List String) : String :=
  lines.foldl (fun out line => out ++ line ++ "\n") ""

def document (j : Json) : String := j.pretty ++ "\n"

namespace Report

def names (ns : List String) : String := ", ".intercalate ns

def machineLines (m : Machine) : List String :=
  (m.key ++ " (initial: " ++ m.initial ++ ")") ::
    (if m.globals.isEmpty then [] else ["  global: " ++ names m.globals.names]) ++
    m.states.entries.map fun (name, node) =>
      "  " ++ name ++ (if node.isTerminal then " [terminal]" else "") ++ ": " ++
        names node.edges.names

def machineJson (m : Machine) : Json :=
  .object [
    ("key", .text m.key),
    ("initial", .text m.initial),
    ("global_events", .texts m.globals.names),
    ("states", .list (m.states.entries.map fun (name, node) =>
      .object [("name", .text name), ("events", .texts node.edges.names),
        ("terminal", .flag node.isTerminal)]))]

/-- All machines, with an empty line between them. -/
def machines (r : Registry) (asJson : Bool) : String :=
  if asJson then
    document (.object [("tutorial", machineJson r.tutorial),
      ("features", .list (r.flows.map machineJson))])
  else
    unlines (machineLines r.tutorial ++ r.flows.flatMap fun m => "" :: machineLines m)

def validation (r : Registry) (asJson : Bool) : String :=
  let machines := r.machines.length
  if asJson then
    document (.object [("valid", .flag true), ("machines", .nat machines),
      ("states", .nat r.stateCount)])
  else
    unlines ["Machine table OK: " ++ toString machines ++ " machines, " ++
      toString r.stateCount ++ " states"]

def segmentLine (s : Progress.Segment) : String :=
  "  " ++ Text.padRight 15 s.feature.title ++ " " ++ Text.padLeft 3 (toString s.percentage) ++
    "% " ++ s.status.title

def featureLine (r : Record) : String :=
  match Progress.current r with
  | some (feature, position) =>
    "Feature:  " ++ feature.name ++ " (" ++ position.text ++ ", " ++
      toString position.percentage ++ "%)"
  | none => "Feature:  none"

def progressLines (r : Record) : List String :=
  ("Tutorial: " ++ r.tutorial) ::
    ((Progress.initialization r).map fun p => "  Initialization: " ++ p.text).toList ++
    featureLine r :: (Progress.bar r).map segmentLine ++
    ["Estimated time: " ++ toString (Progress.planMinutes r) ++ " min"]

def progress (r : Record) (asJson : Bool) : String :=
  if asJson then document (.object (("tutorial_state", .text r.tutorial) :: Progress.fields r))
  else unlines (progressLines r)

/-- What came of a step, in short. -/
def result (outcome : Option Outcome) : String :=
  match outcome with
  | some o => if o.handled then "-> " ++ o.state else "(no-op)"
  | none => "ok"

/-- A replayed step; its intents follow if they are asked for. -/
def stepLines (verbose : Bool) (number : Nat) (entry : Script.Entry) : List String :=
  ("[" ++ Text.padLeft 3 (toString number) ++ "] " ++ entry.step.shown ++ " " ++
      result entry.outcome) ::
    if verbose then entry.intents.map fun intent => "      intent: " ++ intent.shown else []

def replayLines (verbose : Bool) (log : List Script.Entry) : List String :=
  log.zipIdx.flatMap fun (entry, index) => stepLines verbose (index + 1) entry

def stepJson (number : Nat) (entry : Script.Entry) : Json :=
  let record := entry.after.session.record
  .object [
    ("step", .nat number),
    ("input", entry.step.toJson),
    ("result", .optional Outcome.toJson entry.outcome),
    ("tutorial_state", .text record.tutorial),
    ("current_state", .optional .text record.state),
    ("intents", .list (entry.intents.map Action.toJson))]

def replayJson (log : List Script.Entry) (final : Record) : Json :=
  .object [
    ("steps", .list (log.zipIdx.map fun (entry, index) => stepJson (index + 1) entry)),
    ("final", final.toJson)]

/-- What is printed before all else, unless it is unwanted. -/
def banner : String :=
  unlines ["", "  Vault Wizard v" ++ releaseVersion, "  Guided tour state machines", ""]

/-- What a server tells before it listens. -/
def greeting (config : Config) : String :=
  unlines [
    "Vault Wizard Server Starting...",
    "",
    "Configuration:",
    "  Host:         " ++ config.host,
    "  Port:         " ++ toString config.port,
    "  Max sessions: " ++ toString config.maxSessions,
    "",
    "Endpoints:",
    "  GET  /health                  - Health check",
    "  GET  /machines                - Machine table",
    "  POST /sessions                - Open a session",
    "  POST /sessions/\x7bid\x7d/tutorial  - Tutorial event",
    "  POST /sessions/\x7bid\x7d/feature   - Feature event",
    "  GET  /sessions/\x7bid\x7d/progress  - Progress",
    "",
    "Press Ctrl+C to stop",
    ""]

end Report

end GuidedTour.Console
