import GuidedTour.Text.Blank

/-! A feature is a product area with a flow of its own. The set is closed, and
its order here is the order of the selection screen and of every listing. -/
namespace GuidedTour

inductive Feature where
  | secrets | authentication | policies | replication | tools
  deriving DecidableEq, Repr

namespace Feature

def all : List Feature := [secrets, authentication, policies, replication, tools]

def name : Feature → String
  | secrets => "secrets"
  | authentication => "authentication"
  | policies => "policies"
  | replication => "replication"
  | tools => "tools"

def title : Feature → String
  | secrets => "Secrets"
  | authentication => "Authentication"
  | policies => "Policies"
  | replication => "Replication"
  | tools => "Tools"

/-- Rough time in minutes that the flow takes. -/
def minutes : Feature → Nat
  | secrets => 7
  | authentication => 5
  | policies => 5
  | replication => 5
  | tools => 8

/-- Position in `all`, which is also the feature's number in a snapshot. -/
def index : Feature → Nat
  | secrets => 0
  | authentication => 1
  | policies => 2
  | replication => 3
  | tools => 4

def ofIndex? : Nat → Option Feature
  | 0 => some secrets
  | 1 => some authentication
  | 2 => some policies
  | 3 => some replication
  | 4 => some tools
  | _ => none

/-- Names exactly one feature: no alias, no other case, no blanks. -/
def ofName? (s : String) : Option Feature :=
  all.find? (·.name == s)

structure Unknown where
  name : String
  deriving DecidableEq, Repr

def Unknown.message (e : Unknown) : String :=
  "Unknown feature: " ++ e.name

/-- A name typed by an operator: blanks around it and ASCII case do not count,
and `auth` stands for `authentication`. A refusal quotes the name as typed. -/
def parse (s : String) : Except Unknown Feature :=
  let typed := (Text.trim s).map Char.toLower
  if typed == "auth" then .ok authentication
  else match ofName? typed with
    | some f => .ok f
    | none => .error ⟨s⟩

/-- The first unknown name refuses the whole list. -/
def parseAll (names : List String) : Except Unknown (List Feature) :=
  names.mapM parse

theorem mem_all (f : Feature) : f ∈ all := by
  cases f <;> decide

theorem ofIndex?_index (f : Feature) : ofIndex? f.index = some f := by
  cases f <;> rfl

theorem ofName?_name (f : Feature) : ofName? f.name = some f := by
  cases f <;> simp [ofName?, all, name]

theorem index_of_ofIndex? {n : Nat} {f : Feature} (h : ofIndex? n = some f) : f.index = n := by
  unfold ofIndex? at h
  split at h <;> cases h <;> rfl

/-- First occurrences only, in order. -/
def distinct : List Feature → List Feature
  | [] => []
  | f :: rest => f :: (distinct rest).filter (· ≠ f)

theorem distinct_nodup (fs : List Feature) : (distinct fs).Nodup := by
  induction fs with
  | nil => exact List.nodup_nil
  | cons f rest ih =>
    simp only [distinct, List.nodup_cons, List.mem_filter, decide_eq_true_eq]
    exact ⟨fun h => h.2 rfl, ih.filter _⟩

end Feature

/-- A set of features. Each member is a flag, so equal sets are equal values. -/
structure FeatureSet where
  secrets : Bool := false
  authentication : Bool := false
  policies : Bool := false
  replication : Bool := false
  tools : Bool := false
  deriving DecidableEq, Repr

namespace FeatureSet

def empty : FeatureSet := {}

def contains (s : FeatureSet) : Feature → Bool
  | .secrets => s.secrets
  | .authentication => s.authentication
  | .policies => s.policies
  | .replication => s.replication
  | .tools => s.tools

def insert (s : FeatureSet) : Feature → FeatureSet
  | .secrets => { s with secrets := true }
  | .authentication => { s with authentication := true }
  | .policies => { s with policies := true }
  | .replication => { s with replication := true }
  | .tools => { s with tools := true }

/-- Members in the order of `Feature.all`. -/
def toList (s : FeatureSet) : List Feature :=
  Feature.all.filter s.contains

def ofList (fs : List Feature) : FeatureSet :=
  fs.foldl insert empty

@[simp] theorem contains_empty (f : Feature) : empty.contains f = false := by
  cases f <;> rfl

@[simp] theorem contains_insert (s : FeatureSet) (f g : Feature) :
    (s.insert f).contains g = (decide (g = f) || s.contains g) := by
  cases f <;> cases g <;> simp [insert, contains]

theorem ext_contains {s t : FeatureSet} (h : ∀ f, s.contains f = t.contains f) : s = t := by
  cases s; cases t
  simpa [contains] using And.intro (h .secrets) (And.intro (h .authentication)
    (And.intro (h .policies) (And.intro (h .replication) (h .tools))))

@[simp] theorem mem_toList {s : FeatureSet} {f : Feature} :
    f ∈ s.toList ↔ s.contains f = true := by
  simp [toList, Feature.mem_all]

end FeatureSet

end GuidedTour
