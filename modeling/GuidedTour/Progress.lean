import GuidedTour.Session

/-! Figures about a session: where the operator is in the active flow, a bar over
the whole plan, and the position within the initialization tour. Percentages round
down and stop at 100. -/
namespace GuidedTour.Progress

/-- Largest count of a 64-bit word; a product that exceeds it stays there. -/
def maxCount : Nat := Nat.pow 2 64 - 1

/-- `part` out of `whole` as a whole percentage. Nothing out of nothing is complete. -/
def percentOf (part whole : Nat) : Nat :=
  if whole = 0 then 100 else min (min (part * 100) maxCount / whole) 100

/-- A position within a known number of steps. -/
structure Position where
  step : Nat
  total : Nat
  percentage : Nat
  deriving DecidableEq, Repr

def Position.text (p : Position) : String :=
  "Step " ++ toString p.step ++ " of " ++ toString p.total

/-- Position within the active flow. -/
def current (r : Record) : Option (Feature × Position) :=
  r.machine.map fun feature =>
    let total := totalSteps feature r.history
    (feature, ⟨min r.history.length total, total, percentOf r.history.length total⟩)

inductive Status where
  | pending | active | completed
  deriving DecidableEq, Repr

def Status.name : Status → String
  | pending => "pending"
  | active => "active"
  | completed => "completed"

def Status.title : Status → String
  | pending => "Pending"
  | active => "Active"
  | completed => "Completed"

/-- The part of the bar that belongs to one planned feature. -/
structure Segment where
  feature : Feature
  percentage : Nat
  status : Status
  deriving DecidableEq, Repr

/-- An active flow stays active even when its history fills all steps. -/
def segment (r : Record) (feature : Feature) : Segment :=
  match current r with
  | some (active, position) =>
    if active = feature then ⟨feature, position.percentage, .active⟩
    else if r.completed.contains feature then ⟨feature, 100, .completed⟩
    else ⟨feature, 0, .pending⟩
  | none =>
    if r.completed.contains feature then ⟨feature, 100, .completed⟩
    else ⟨feature, 0, .pending⟩

def bar (r : Record) : List Segment := r.plan.map (segment r)

/-- Estimated minutes for the whole plan. -/
def planMinutes (r : Record) : Nat :=
  r.plan.foldl (fun minutes f => minutes + f.minutes) 0

/-- Position within the initialization tour, while it runs. -/
def initialization (r : Record) : Option Position :=
  (initSteps.findIdx? fun name => r.tutorial == "init.active." ++ name).map fun index =>
    ⟨index + 1, initSteps.length, percentOf (index + 1) initSteps.length⟩

end GuidedTour.Progress
