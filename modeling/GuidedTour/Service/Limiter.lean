import GuidedTour.Service.Command

/-! Limiting the requests of all clients together. How a limiter decides is its own matter and
depends on the time, so each call brings the time at which it comes in. -/
namespace GuidedTour.Service

/-- Whether a limiter lets a call through, by the quota of a second, the times at which it was
asked before, latest first, and the time of the call. -/
abbrev Limiter := Nat → List Nat → Nat → Bool

/-- As many calls as the quota allows, if all of them come at one time. -/
def Limiter.atOnce : Limiter := fun quota asked _ => asked.length < quota

/-- A request that comes in at some time. -/
structure Call where
  request : Request
  time : Nat := 0
  deriving DecidableEq, Repr

end GuidedTour.Service
