import GuidedTour.Machine.Blueprint

/-! Replication flow: enable replication, then review the details. -/
namespace GuidedTour.Flow.Replication
open Node.Clause

def blueprint : Blueprint where
  key := "replication"
  initial := "setup"
  clauses := [
    .global "RESET" "setup",
    .global "DONE" "complete",
    .state "setup" [
      goTo "vault.cluster.replication", mount .feature "replication-setup",
      on "ENABLEREPLICATION" "details"],
    .state "details" [mount .feature "replication-details", on "CONTINUE" "complete"],
    .state "complete" [entry .completeFeature]]

def machine : Machine := blueprint.machine

end GuidedTour.Flow.Replication
