import GuidedTour.Machine.Blueprint

/-! Policies flow: a walk through the screens of access policies. -/
namespace GuidedTour.Flow.Policies
open Node.Clause

def blueprint : Blueprint where
  key := "policies"
  initial := "idle"
  clauses := [
    .global "RESET" "idle",
    .global "DONE" "complete",
    .state "idle" [
      goTo "vault.cluster.policies.index" ["acl"], mount .feature "policies-intro",
      on "CONTINUE" "create"],
    .state "create" [mount .feature "policies-create", on "CONTINUE" "details"],
    .state "details" [mount .feature "policies-details", on "CONTINUE" "delete"],
    .state "delete" [mount .feature "policies-delete", on "CONTINUE" "others"],
    .state "others" [mount .feature "policies-others", on "CONTINUE" "complete"],
    .state "complete" [entry .completeFeature]]

def machine : Machine := blueprint.machine

end GuidedTour.Flow.Policies
