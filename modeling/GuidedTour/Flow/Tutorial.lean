import GuidedTour.Machine.Blueprint

/-! The tutorial sequences the tour: initialization, selection of features, the
active flow, pausing, dismissal and completion. Nested states are flattened into
dotted names, so the entry actions of a region are repeated on its states. -/
namespace GuidedTour.Flow.Tutorial
open Node.Clause

/-- Leaving the initialization tour hides the tour before login again and drops
what was chosen before login. -/
def leaveInit : List Action := [.showWhenAuthenticated, .clearFeatureData]

def initActive (component : String) : List Node.Clause :=
  [entry .showAlways, mount .tutorial "tutorial-active", mount .feature component,
    onWith "INITDONE" "active.select" leaveInit]

def blueprint : Blueprint where
  key := "tutorial"
  initial := "idle"
  clauses := [
    .global "DISMISS" "dismissed",
    .global "DONE" "complete",
    .global "PAUSE" "paused",
    .state "idle" [
      goTo "vault.cluster", mount .feature "features-selection", mount .tutorial "tutorial-idle",
      on "INIT" "init.idle", on "AUTH" "active.select", on "CONTINUE" "active.select"],
    .state "init.idle" [
      entry .showAlways, mount .tutorial "tutorial-idle", clear .feature,
      on "START" "init.active.setup", onWith "INITDONE" "active.select" leaveInit],
    .state "init.active.setup" <| initActive "init-setup" ++ [
      on "TOSAVE" "init.active.save"],
    .state "init.active.save" <| initActive "init-save-keys" ++ [
      on "TOUNSEAL" "init.active.unseal", on "TOLOGIN" "init.active.login"],
    .state "init.active.unseal" <| initActive "init-unseal" ++ [
      on "TOLOGIN" "init.active.login"],
    .state "init.active.login" <| initActive "init-login",
    .state "active.select" [
      mount .tutorial "tutorial-active", mount .feature "features-selection",
      on "CONTINUE" "active.feature"],
    .state "active.feature" [mount .tutorial "tutorial-active"],
    .state "paused" [
      clear .feature, clear .step, clear .detail, mount .tutorial "tutorial-paused",
      entry .handlePaused, exit .handleResume,
      on "CONTINUE" "active.feature", ignore "PAUSE"],
    .state "dismissed" [
      clear .tutorial, clear .feature, clear .step, clear .detail, entry .handleDismissed,
      on "DISMISS" "dismissed", absorb],
    .state "complete" [
      clear .feature, clear .step, clear .detail, mount .tutorial "tutorial-complete"]]

def machine : Machine := blueprint.machine

end GuidedTour.Flow.Tutorial
