import GuidedTour.Tour.Basic

/-! Everything an operator can do to a tour, as data, and runs of it. -/
namespace GuidedTour

inductive Operation where
  /-- An event for the tutorial, from a claimed state if one is given. -/
  | tutorial (state : Option String) (event : String)
  /-- An event for the active flow, from a claimed state if one is given. -/
  | flow (state : Option String) (event : String) (params : Option FlowParams)
  | select (features : List Feature)
  | observe (route : Route)
  | dismiss
  | restart
  | reset
  deriving DecidableEq, Repr

namespace Tour

/-- Performs one operation. Only events have an outcome. -/
def step (t : Tour) : Operation → Option Outcome × Tour
  | .tutorial none event => (t.tutorial event).map some id
  | .tutorial (some state) event => (t.tutorialFrom state event).map some id
  | .flow none event params => (t.flow event params).map some id
  | .flow (some state) event params => (t.flowFrom state event params).map some id
  | .select features => (none, t.select features)
  | .observe route => (none, t.observe route)
  | .dismiss => t.dismiss.map some id
  | .restart => t.restart.map some id
  | .reset => (none, t.reset)

/-- The tour after a run of operations. -/
def run (t : Tour) (ops : List Operation) : Tour :=
  ops.foldl (fun t op => (t.step op).2) t

@[simp] theorem run_nil (t : Tour) : t.run [] = t := rfl

@[simp] theorem run_cons (t : Tour) (op : Operation) (ops : List Operation) :
    t.run (op :: ops) = (t.step op).2.run ops := rfl

theorem run_append (t : Tour) (left right : List Operation) :
    t.run (left ++ right) = (t.run left).run right :=
  List.foldl_append ..

end Tour

end GuidedTour
