import GuidedTour.Machine.Blueprint

/-! Authentication flow: enable an auth method, configure it, review it. -/
namespace GuidedTour.Flow.Authentication
open Node.Clause

def blueprint : Blueprint where
  key := "authentication"
  initial := "idle"
  clauses := [
    .global "RESET" "idle",
    .global "DONE" "complete",
    .state "idle" [
      goTo "vault.cluster.settings.auth.enable",
      mount .feature "mounts-wizard", mount .step "auth-idle", on "CONTINUE" "enable"],
    .state "enable" [
      mount .feature "mounts-wizard", mount .step "auth-enable", on "CONTINUE" "config"],
    .state "config" [
      mount .feature "mounts-wizard", mount .step "auth-config", on "CONTINUE" "details"],
    .state "details" [
      mount .step "auth-details", mount .feature "mounts-wizard",
      on "CONTINUE" "complete", on "RESET" "idle"],
    .state "complete" [entry .completeFeature]]

def machine : Machine := blueprint.machine

end GuidedTour.Flow.Authentication
