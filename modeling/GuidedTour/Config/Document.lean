import GuidedTour.Config.Basic
import GuidedTour.Toml.Reader

/-! Settings in a document. A section is a table of settings, or lists its settings in
order; what is missing has its default. Unknown names do not count, but the numbers under
them have to be such that can be held; what is listed beyond the settings is not looked at.
The plan has to name features. -/
namespace GuidedTour.Config

inductive DocumentFault where
  /-- The document cannot be read, or a setting is of the wrong kind. -/
  | invalid
  | unknownFeature (unknown : Feature.Unknown)
  deriving DecidableEq, Repr

open Toml (Value)

def text? : Value → Option String
  | .text s => some s
  | _ => none

def texts? : Value → Option (List String)
  | .array items => items.mapM text?
  | _ => none

def natUpTo? (largest : Nat) : Value → Option Nat
  | .integer n => if 0 ≤ n ∧ n ≤ largest then some n.toNat else none
  | _ => none

/-- The settings of a section by name. A date or time counts as a section without any. -/
def section? (names : List String) (document : List (String × Value)) (name : String) :
    Option (List (String × Value)) :=
  match document.lookup name with
  | none => some []
  | some (.table _ fields) => some fields
  | some (.array items) => some (names.zip items)
  | some (.tables rows) => some (names.zip rows.reverse)
  | some .moment => some []
  | some _ => none

def setting? (fields : List (String × Value)) (name : String) (default : α)
    (read : Value → Option α) : Option α :=
  match fields.lookup name with
  | none => some default
  | some v => read v

/-- The numbers of some fields can be held. -/
def fits (fields : List (String × Value)) : Bool := fields.all (·.2.fits)

/-- The settings of a document, whatever features the plan names. -/
def ofTable? (document : List (String × Value)) : Option Config := do
  let base : Config := {}
  let others := document.filter fun field => ["server", "api", "wizard"].all (· != field.1)
  let server ← section? ["host", "port"] document "server"
  let api ← section? ["rate_limit", "max_sessions", "cors_origins"] document "api"
  let wizard ← section? ["default_features"] document "wizard"
  if !(fits others && fits server && fits api && fits wizard) then none
  return { base with
    host := ← setting? server "host" base.host text?
    port := ← setting? server "port" base.port (natUpTo? maxPort)
    rateLimit := ← setting? api "rate_limit" base.rateLimit (natUpTo? maxRateLimit)
    maxSessions := ← setting? api "max_sessions" base.maxSessions (natUpTo? maxSessionCount)
    corsOrigins := ← setting? api "cors_origins" none fun v => (texts? v).map some
    defaultFeatures := ← setting? wizard "default_features" [] texts? }

def ofDocument? (text : String) : Option Config := do
  match ← Toml.parse? text with
  | .table _ fields => ofTable? fields
  | _ => none

def parse (text : String) : Except DocumentFault Config :=
  match ofDocument? text with
  | none => .error .invalid
  | some config =>
    match config.plan with
    | .ok _ => .ok config
    | .error unknown => .error (.unknownFeature unknown)

/-- Settings that were read have a plan. -/
theorem plan_of_parse {text : String} {config : Config} (h : parse text = .ok config) :
    ∃ plan, config.plan = .ok plan := by
  unfold parse at h
  split at h
  · cases h
  · split at h
    next plan hp => cases h; exact ⟨plan, hp⟩
    next => cases h

end GuidedTour.Config
