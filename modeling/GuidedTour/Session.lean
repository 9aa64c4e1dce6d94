import GuidedTour.Registry
import GuidedTour.Steps

/-! What is remembered of one session, live and written down. A live session has
a flow or has none. A written one keeps the parts of the flow apart, so that
any combination can be written; `Record.defect?` says which of them fit a
registry, and exactly those can be brought back to life. -/
namespace GuidedTour

/-- The active flow: its feature, the state it is in, and the states recorded so far. -/
structure Flow where
  feature : Feature
  state : String
  history : List String
  deriving DecidableEq, Repr

structure Session where
  /-- State of the tutorial machine. -/
  tutorial : String
  flow : Option Flow := none
  /-- Features whose flow was completed. -/
  completed : FeatureSet := .empty
  /-- Selected features, in the order of selection. -/
  plan : List Feature := []
  /-- Parameters of the last flow event that brought some. -/
  params : FlowParams := {}
  screen : Screen := .empty
  shownBeforeLogin : Bool := false
  /-- Last route requested or observed. -/
  route : Option Route := none
  /-- Where a paused tour resumes. -/
  resumeRoute : Option Route := none
  deriving DecidableEq, Repr

/-- Features of a plan after a given one. -/
def featuresAfter (f : Feature) : List Feature → List Feature
  | [] => []
  | g :: rest => if g = f then rest else featuresAfter f rest

namespace Session

/-- The tutorial at its initial state, and nothing selected. -/
def fresh (r : Registry) : Session := { tutorial := r.tutorial.initial }

/-- Planned features that come after the active one. -/
def ahead (s : Session) : List Feature :=
  match s.flow with
  | some flow => featuresAfter flow.feature s.plan
  | none => []

/-- Flow events count only while the tutorial is in one of these states. -/
def isActive (s : Session) : Bool :=
  "active.".toList.isPrefixOf s.tutorial.toList

/-- Drops the plan, the active flow and its parameters. -/
def clearFeatures (s : Session) : Session :=
  { s with plan := [], flow := none, params := {} }

end Session

/-- A session written down. -/
structure Record where
  tutorial : String
  machine : Option Feature := none
  state : Option String := none
  history : List String := []
  completed : FeatureSet := .empty
  plan : List Feature := []
  params : FlowParams := {}
  screen : Screen := .empty
  shownBeforeLogin : Bool := false
  route : Option Route := none
  resumeRoute : Option Route := none
  deriving DecidableEq, Repr

def Session.record (s : Session) : Record where
  tutorial := s.tutorial
  machine := s.flow.map (·.feature)
  state := s.flow.map (·.state)
  history := (s.flow.map (·.history)).getD []
  completed := s.completed
  plan := s.plan
  params := s.params
  screen := s.screen
  shownBeforeLogin := s.shownBeforeLogin
  route := s.route
  resumeRoute := s.resumeRoute

namespace Record

/-- Why a written session does not fit a registry. -/
inductive Defect where
  | unknownTutorialState (state : String)
  | listedTwice (feature : Feature)
  | historyWithoutFlow
  | unknownFlowState (state : String) (feature : Feature)
  | notInPlan (feature : Feature)
  | notRecordable (state : String)
  | historyEndsElsewhere (state : String)
  | historyTooLong (entries steps : Nat) (feature : Feature)
  | flowHalfSet
  deriving DecidableEq, Repr

def Defect.reason : Defect → String
  | unknownTutorialState state => "unknown tutorial state '" ++ state ++ "'"
  | listedTwice feature => "feature '" ++ feature.name ++ "' listed twice"
  | historyWithoutFlow => "history recorded without an active flow"
  | unknownFlowState state feature => "'" ++ state ++ "' is not a state of " ++ feature.name
  | notInPlan feature => "active feature '" ++ feature.name ++ "' is not in the plan"
  | notRecordable state => "history entry '" ++ state ++ "' is not recordable"
  | historyEndsElsewhere state =>
    "history does not end at the current state '" ++ state ++ "'"
  | historyTooLong entries steps feature =>
    "history of " ++ toString entries ++ " entries exceeds " ++ toString steps ++
      " steps of " ++ feature.name
  | flowHalfSet => "flow and flow state must be set together"

def Defect.message (d : Defect) : String := "Invalid snapshot: " ++ d.reason

/-- First member that also occurs before. -/
def firstRepeated : List Feature → List Feature → Option Feature
  | _, [] => none
  | seen, f :: rest => if seen.contains f then some f else firstRepeated (f :: seen) rest

/-- First defect of a flow of `feature` at `state`. -/
def flowDefect? (r : Record) (reg : Registry) (feature : Feature) (state : String) :
    Option Defect :=
  let m := reg.flow feature
  let steps := totalSteps feature r.history
  if !m.contains state then some (.unknownFlowState state feature)
  else if !r.plan.contains feature then some (.notInPlan feature)
  else match r.history.find? fun s => !m.contains s || m.isTerminal s with
    | some s => some (.notRecordable s)
    | none =>
      if !m.isTerminal state && r.history.getLast? ≠ some state then
        some (.historyEndsElsewhere state)
      else if steps < r.history.length then
        some (.historyTooLong r.history.length steps feature)
      else none

/-- Completed features need not be planned: a new selection keeps earlier completions. -/
def defect? (r : Record) (reg : Registry) : Option Defect :=
  if !reg.tutorial.contains r.tutorial then some (.unknownTutorialState r.tutorial)
  else match firstRepeated [] r.plan with
    | some f => some (.listedTwice f)
    | none =>
      match r.machine, r.state with
      | none, none => if r.history.isEmpty then none else some .historyWithoutFlow
      | some feature, some state => r.flowDefect? reg feature state
      | _, _ => some .flowHalfSet

/-- The session that a record describes. -/
def session (r : Record) : Session where
  tutorial := r.tutorial
  flow := match r.machine, r.state with
    | some feature, some state => some ⟨feature, state, r.history⟩
    | _, _ => none
  completed := r.completed
  plan := r.plan
  params := r.params
  screen := r.screen
  shownBeforeLogin := r.shownBeforeLogin
  route := r.route
  resumeRoute := r.resumeRoute

@[simp] theorem session_record (s : Session) : s.record.session = s := by
  cases s with
  | mk tutorial flow => cases flow <;> rfl

/-- Only a record without defect survives being brought to life unchanged. -/
theorem record_session {r : Record} {reg : Registry} (h : r.defect? reg = none) :
    r.session.record = r := by
  obtain ⟨tutorial, machine, state, history, _, _, _, _, _, _, _⟩ := r
  cases machine <;> cases state <;> simp [Session.record, session]
  all_goals
    simp only [defect?] at h
    split at h
    · cases h
    · split at h <;> simp_all

end Record

end GuidedTour
