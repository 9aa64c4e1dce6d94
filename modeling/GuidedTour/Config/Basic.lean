import GuidedTour.Feature
import GuidedTour.Text.Numeral
import GuidedTour.Text.Split

/-! Settings, and the environment that overrides them. -/
namespace GuidedTour

structure Config where
  host : String := "127.0.0.1"
  port : Nat := 8080
  /-- Requests a second, over all clients; zero sets no limit. -/
  rateLimit : Nat := 100
  /-- Sessions that may be open at the same time. -/
  maxSessions : Nat := 1024
  /-- Origins that browsers may call from; nothing stands for the local machine. -/
  corsOrigins : Option (List String) := none
  /-- Plan of a session that does not bring its own, as feature names. -/
  defaultFeatures : List String := []
  /-- Key that requests have to show. It is never written to a file. -/
  apiKey : Option String := none
  deriving DecidableEq, Repr

/-- The variables that override settings, where they are set. -/
structure Environment where
  apiKey : Option String := none
  rateLimit : Option String := none
  corsOrigins : Option String := none
  deriving DecidableEq, Repr

namespace Config

def maxPort : Nat := Nat.pow 2 16 - 1

def maxRateLimit : Nat := Nat.pow 2 32 - 1

def maxSessionCount : Nat := Nat.pow 2 64 - 1

def plan (c : Config) : Except Feature.Unknown (List Feature) :=
  Feature.parseAll c.defaultFeatures

def isLimited (c : Config) : Bool := c.rateLimit ≠ 0

/-- Requests a second, over all clients, if they are limited. -/
def quota? (c : Config) : Option Nat := if c.isLimited then some c.rateLimit else none

def isDefault (c : Config) : Bool := c = {}

/-- Names between commas, without blanks around them; empty ones do not count. -/
def splitNames (raw : String) : List String :=
  ((Text.pieces ',' raw.toList).map fun piece => Text.trim (String.ofList piece)).filter
    (!·.isEmpty)

/-- The key is always that of the environment. An unusable limit is passed over. -/
def override (c : Config) (env : Environment) : Config :=
  { c with
    apiKey := env.apiKey.filter (!·.isEmpty)
    rateLimit :=
      (env.rateLimit.bind fun raw => Text.unsigned? maxRateLimit (Text.trimChars raw.toList)).getD
        c.rateLimit
    corsOrigins := (env.corsOrigins.map splitNames).or c.corsOrigins }

/-- The environment never touches the plan. -/
@[simp] theorem plan_override (c : Config) (env : Environment) :
    (c.override env).plan = c.plan := rfl

end Config

end GuidedTour
