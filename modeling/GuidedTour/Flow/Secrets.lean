import GuidedTour.Machine.Blueprint

/-! Secrets flow: enable an engine, then walk the branch of its kind. From the
last screen `REPEAT` returns to the head of the branch that was walked, which
keeps the history within that branch. -/
namespace GuidedTour.Flow.Secrets
open Node.Clause

/-- Engines with a walk through roles and credentials. -/
def roleEngines : List String := ["pki", "aws", "ssh"]

/-- Engines with a walk through writing a secret. -/
def secretEngines : List String := ["kv"]

/-- Engines with a walk through an encryption key. -/
def encryptionEngines : List String := ["transit"]

/-- Engines with a guided branch; every other one ends at the list of mounts. -/
def supportedEngines : List String := roleEngines ++ secretEngines ++ encryptionEngines

def screen (step : String) : List Node.Clause :=
  [mount .feature "mounts-wizard", mount .step step]

def blueprint : Blueprint where
  key := "secrets"
  initial := "idle"
  clauses := [
    .global "RESET" "idle",
    .global "DONE" "complete",
    .state "idle" <| goTo "vault.cluster.settings.mount-secret-backend"
      :: screen "secrets-idle" ++ [on "CONTINUE" "enable"],
    .state "enable" <| screen "secrets-enable" ++ [
      onWhen "CONTINUE" "details" (.mountIn supportedEngines),
      onWhen "CONTINUE" "list" (.mountNotIn supportedEngines)],
    .state "details" <| screen "secrets-details" ++ [
      onWhen "CONTINUE" "role" (.mountIn roleEngines),
      onWhen "CONTINUE" "secret" (.mountIn secretEngines),
      onWhen "CONTINUE" "encryption" (.mountIn encryptionEngines)],
    .state "role" <| screen "secrets-role" ++ [on "CONTINUE" "displayRole"],
    .state "displayRole" <| screen "secrets-display-role" ++ [on "CONTINUE" "credentials"],
    .state "credentials" <| screen "secrets-credentials" ++ [on "CONTINUE" "display"],
    .state "secret" <| screen "secrets-secret" ++ [on "CONTINUE" "display"],
    .state "encryption" <| screen "secrets-encryption" ++ [on "CONTINUE" "display"],
    .state "list" <| screen "secrets-list" ++ [on "CONTINUE" "display"],
    .state "display" <| screen "secrets-display" ++ [
      onWhen "REPEAT" "role" (.visited "role"),
      onWhen "REPEAT" "secret" (.visited "secret"),
      onWhen "REPEAT" "encryption" (.visited "encryption"),
      on "RESET" "idle", on "DONE" "complete"],
    .state "complete" [entry .completeFeature]]

def machine : Machine := blueprint.machine

end GuidedTour.Flow.Secrets
