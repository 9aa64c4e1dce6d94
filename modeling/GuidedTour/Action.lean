/-! What a transition asks for. Rendering and navigating are wishes for outside
collaborators and are queued for them; every other action is bookkeeping on the
session itself. -/
namespace GuidedTour

/-- A region of the screen that holds at most one component. -/
inductive Region where
  | tutorial | feature | step | detail
  deriving DecidableEq, Repr

namespace Region

def all : List Region := [tutorial, feature, step, detail]

def name : Region → String
  | tutorial => "tutorial"
  | feature => "feature"
  | step => "step"
  | detail => "detail"

def title : Region → String
  | tutorial => "Tutorial"
  | feature => "Feature"
  | step => "Step"
  | detail => "Detail"

/-- Position in `all`, which is also the region's number in a snapshot. -/
def index : Region → Nat
  | tutorial => 0
  | feature => 1
  | step => 2
  | detail => 3

def ofIndex? : Nat → Option Region
  | 0 => some tutorial
  | 1 => some feature
  | 2 => some step
  | 3 => some detail
  | _ => none

def ofName? (s : String) : Option Region :=
  all.find? (·.name == s)

theorem mem_all (r : Region) : r ∈ all := by
  cases r <;> decide

theorem ofIndex?_index (r : Region) : ofIndex? r.index = some r := by
  cases r <;> rfl

theorem ofName?_name (r : Region) : ofName? r.name = some r := by
  cases r <;> simp [ofName?, all, name]

theorem index_of_ofIndex? {n : Nat} {r : Region} (h : ofIndex? n = some r) : r.index = n := by
  unfold ofIndex? at h
  split at h <;> cases h <;> rfl

end Region

/-- A named place to navigate to, with positional parameters. -/
structure Route where
  name : String
  params : List String := []
  deriving DecidableEq, Repr

/-- Choices that come with a feature event and that guards may read. -/
structure FlowParams where
  mountType : Option String := none
  deriving DecidableEq, Repr

inductive Action where
  /-- Mount a component in a region; no component clears the region. -/
  | render (region : Region) (component : Option String)
  | navigate (route : Route)
  /-- The active flow has finished. -/
  | completeFeature
  /-- The tour was dismissed: drop all feature data. -/
  | handleDismissed
  /-- Remember the current route, so that the tour can resume there. -/
  | handlePaused
  /-- Go back to the remembered route. -/
  | handleResume
  | showAlways
  | showWhenAuthenticated
  /-- Drop the plan, the active flow and its parameters. -/
  | clearFeatureData
  deriving DecidableEq, Repr

namespace Action

def mount (region : Region) (component : String) : Action := render region (some component)

def clear (region : Region) : Action := render region none

def goTo (name : String) (params : List String := []) : Action := navigate ⟨name, params⟩

/-- Intents are the actions that leave the session for an outside collaborator. -/
def isIntent : Action → Bool
  | render .. => true
  | navigate .. => true
  | _ => false

/-- Word that names the kind of action on the wire. -/
def tag : Action → String
  | render .. => "render"
  | navigate .. => "routeTransition"
  | completeFeature => "completeFeature"
  | handleDismissed => "handleDismissed"
  | handlePaused => "handlePaused"
  | handleResume => "handleResume"
  | showAlways => "showTutorialAlways"
  | showWhenAuthenticated => "showTutorialWhenAuthenticated"
  | clearFeatureData => "clearFeatureData"

/-- The actions that carry nothing but their tag. -/
def plain : List Action :=
  [completeFeature, handleDismissed, handlePaused, handleResume, showAlways,
    showWhenAuthenticated, clearFeatureData]

end Action

/-- What is mounted in each region. -/
structure Screen where
  tutorial : Option String := none
  feature : Option String := none
  step : Option String := none
  detail : Option String := none
  deriving DecidableEq, Repr

namespace Screen

def empty : Screen := {}

def get (s : Screen) : Region → Option String
  | .tutorial => s.tutorial
  | .feature => s.feature
  | .step => s.step
  | .detail => s.detail

def set (s : Screen) (r : Region) (component : Option String) : Screen :=
  match r with
  | .tutorial => { s with tutorial := component }
  | .feature => { s with feature := component }
  | .step => { s with step := component }
  | .detail => { s with detail := component }

/-- Mounted components, in the order of the regions. -/
def toList (s : Screen) : List (Region × String) :=
  Region.all.filterMap fun r => (s.get r).map (r, ·)

/-- Later entries overwrite earlier ones of the same region. -/
def ofList (entries : List (Region × String)) : Screen :=
  entries.foldl (fun s e => s.set e.1 (some e.2)) empty

@[simp] theorem get_empty (r : Region) : empty.get r = none := by
  cases r <;> rfl

@[simp] theorem get_set (s : Screen) (r q : Region) (component : Option String) :
    (s.set r component).get q = if q = r then component else s.get q := by
  cases r <;> cases q <;> rfl

@[simp] theorem mem_toList {s : Screen} {r : Region} {component : String} :
    (r, component) ∈ s.toList ↔ s.get r = some component := by
  simp [toList, Region.mem_all]

theorem ext_get {s t : Screen} (h : ∀ r, s.get r = t.get r) : s = t := by
  cases s; cases t
  simpa [get] using And.intro (h .tutorial) (And.intro (h .feature)
    (And.intro (h .step) (h .detail)))

end Screen

end GuidedTour
