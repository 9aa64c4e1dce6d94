import GuidedTour.Machine.Blueprint

/-! Tools flow: wrap a token, look it up, rewrap it, unwrap it. -/
namespace GuidedTour.Flow.Tools
open Node.Clause

def tool (name component : String) : List Node.Clause :=
  [goTo "vault.cluster.tools.tool" [name], mount .feature component]

def blueprint : Blueprint where
  key := "tools"
  initial := "wrap"
  clauses := [
    .global "RESET" "wrap",
    .global "DONE" "complete",
    .state "wrap" [
      goTo "vault.cluster.tools", mount .feature "tools-wrap", on "CONTINUE" "wrapped"],
    .state "wrapped" [mount .feature "tools-wrapped", on "LOOKUP" "lookup"],
    .state "lookup" <| tool "lookup" "tools-lookup" ++ [on "CONTINUE" "info"],
    .state "info" [mount .feature "tools-info", on "REWRAP" "rewrap"],
    .state "rewrap" <| tool "rewrap" "tools-rewrap" ++ [on "CONTINUE" "rewrapped"],
    .state "rewrapped" [mount .feature "tools-rewrapped", on "UNWRAP" "unwrap"],
    .state "unwrap" <| tool "unwrap" "tools-unwrap" ++ [on "CONTINUE" "unwrapped"],
    .state "unwrapped" [mount .feature "tools-unwrapped", on "CONTINUE" "complete"],
    .state "complete" [entry .completeFeature]]

def machine : Machine := blueprint.machine

end GuidedTour.Flow.Tools
