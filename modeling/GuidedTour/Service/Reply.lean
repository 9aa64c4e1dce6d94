import GuidedTour.Progress
import GuidedTour.Release
import GuidedTour.Service.Command
import GuidedTour.Wire.Record

/-! What is answered: the facts first, and how they are written. -/
namespace GuidedTour.Service

/-- What a client is told about its session. -/
structure View where
  id : Nat
  session : Session
  nextStep : Option String
  nextFeature : Option Feature
  /-- Intents that are handed over, oldest first. -/
  intents : List Action
  deriving DecidableEq, Repr

def View.of (id : Nat) (t : Tour) (intents : List Action) : View :=
  ⟨id, t.session, t.nextStep, t.nextFeature, intents⟩

def View.toJson (v : View) : Json :=
  let record := v.session.record
  .object [
    ("id", .nat v.id),
    ("tutorial_state", .text record.tutorial),
    ("current_machine", .optional Feature.toJson record.machine),
    ("current_state", .optional .text record.state),
    ("history", .texts record.history),
    ("feature_list", .list (record.plan.map Feature.toJson)),
    ("completed_features", .list (record.completed.toList.map Feature.toJson)),
    ("show_when_unauthenticated", .flag record.shownBeforeLogin),
    ("next_step", .optional .text v.nextStep),
    ("next_feature", .optional Feature.toJson v.nextFeature),
    ("intents", .list (v.intents.map Action.toJson))]

/-- The shape of a machine, without its edges. -/
def summary (m : Machine) : Json :=
  .object [("key", .text m.key), ("initial", .text m.initial), ("states", .texts m.states.names),
    ("global_events", .texts m.globals.names)]

inductive Reply where
  | health
  | machines (registry : Registry)
  | opened (view : View)
  | described (view : View)
  | moved (outcome : Outcome) (view : View)
  | progress (record : Record)
  /-- Done, and nothing to tell. -/
  | done
  /-- What browsers are told before they call. -/
  | preflight
  | refused (refusal : Refusal)
  /-- The limiter did not let the request through, whatever it asks for. -/
  | limited

inductive Content where
  | empty
  | json (value : Json)
  | text (value : String)

namespace Refusal

def status : Refusal → Nat
  | unauthorized => 401
  | unknownPath => 404
  | unknownMethod => 405
  | badId => 400
  | notJson => 415
  | bodyTooLarge => 413
  | unreadable .malformed => 400
  | unreadable .mismatch => 422
  | unfit _ => 400
  | noSession _ => 404
  | sessionLimit _ => 503

def explanation (kind message : String) : Content :=
  .json (.object [("error", .text kind), ("message", .text message)])

/-- Refusals that concern the sessions explain themselves. -/
def content : Refusal → Content
  | unauthorized => .text "Unauthorized"
  | unfit reason => explanation "bad_request" reason.message
  | noSession id => explanation "not_found" ("No wizard session " ++ toString id)
  | sessionLimit limit =>
    explanation "unavailable" ("Session limit of " ++ toString limit ++ " reached")
  | _ => .empty

end Refusal

namespace Reply

def status : Reply → Nat
  | opened _ => 201
  | done => 204
  | refused refusal => refusal.status
  | limited => 429
  | _ => 200

def content : Reply → Content
  | health => .json (.object [("status", .text "ok"), ("version", .text releaseVersion)])
  | machines registry =>
    .json (.object [("tutorial", summary registry.tutorial),
      ("features", .list (registry.flows.map summary))])
  | opened view | described view => .json view.toJson
  | moved outcome view =>
    .json (.object [("result", outcome.toJson), ("session", view.toJson)])
  | progress record => .json (Progress.toJson record)
  | done | preflight => .empty
  | refused refusal => refusal.content
  | limited => .text "Too Many Requests"

end Reply

end GuidedTour.Service
