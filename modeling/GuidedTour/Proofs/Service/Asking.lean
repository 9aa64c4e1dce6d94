import GuidedTour.Proofs.Results
import GuidedTour.Service.Server

/-! What requests ask for. A command belongs to the resource under the path of the request, to
a method, and to an id and a body where there are some; nothing else leads to it. -/
namespace GuidedTour.Service

variable {r : Request} {resource : Resource} {c : Command} {id : Nat}

theorem fit_eq_ok_iff {x : Except Unfit α} {a : α} : fit x = .ok a ↔ x = .ok a :=
  mapError_eq_ok_iff

namespace Resource

/-- When a request on a resource asks for a command. -/
inductive Asks (r : Request) : Resource → Command → Prop where
  | health : isRead r.method = true → Asks r health .health
  | machines : isRead r.method = true → Asks r machines .machines
  | openSession {body plan} : r.method = "POST" → r.readBody OpenBody.read = .ok body →
    body.toFeatures = .ok plan → Asks r sessions (.openSession body.authenticated plan)
  | describe {text id} : isRead r.method = true → readId text = .ok id →
    Asks r (session text) (.describe id)
  | close {text id} : r.method = "DELETE" → readId text = .ok id →
    Asks r (session text) (.close id)
  | select {text id body plan} : r.method = "PUT" → readId text = .ok id →
    r.readBody PlanBody.read = .ok body → body.toFeatures = .ok plan →
    Asks r (features text) (.select id plan)
  | tutorial {text id body event state} : r.method = "POST" → readId text = .ok id →
    r.readBody EventBody.read = .ok body → body.toEvent = .ok event → body.toState = .ok state →
    Asks r (tutorial text) (.tutorial id state event)
  | flow {text id body event state params} : r.method = "POST" → readId text = .ok id →
    r.readBody EventBody.read = .ok body → body.toEvent = .ok event → body.toState = .ok state →
    body.toParams = .ok params → Asks r (feature text) (.flow id state event params)
  | observe {text id body place} : r.method = "POST" → readId text = .ok id →
    r.readBody RouteBody.read = .ok body → body.toRoute = .ok place →
    Asks r (route text) (.observe id place)
  | restart {text id} : r.method = "POST" → readId text = .ok id →
    Asks r (restart text) (.restart id)
  | progress {text id} : isRead r.method = true → readId text = .ok id →
    Asks r (progress text) (.progress id)

theorem asks_of_command (h : resource.command r = .ok c) : resource.Asks r c := by
  cases resource <;> simp only [command, check_eq_ok_iff, bind_eq_ok_iff, pure_eq_ok_iff,
    fit_eq_ok_iff, ne_eq, Decidable.not_not] at h
  case health =>
    split at h
    · cases h
      apply Asks.health
      assumption
    · cases h
  case machines =>
    split at h
    · cases h
      apply Asks.machines
      assumption
    · cases h
  case sessions =>
    obtain ⟨method, body, read, plan, known, rfl⟩ := h
    exact .openSession method read known
  case session text =>
    split at h
    · obtain ⟨id, known, rfl⟩ := map_eq_ok_iff.1 h
      apply Asks.describe <;> assumption
    · split at h
      · obtain ⟨id, known, rfl⟩ := map_eq_ok_iff.1 h
        apply Asks.close <;> assumption
      · cases h
  case features text =>
    obtain ⟨method, id, known, body, read, plan, fits, rfl⟩ := h
    exact .select method known read fits
  case tutorial text =>
    obtain ⟨method, id, known, body, read, event, named, state, claims, rfl⟩ := h
    exact .tutorial method known read named claims
  case feature text =>
    obtain ⟨method, id, known, body, read, event, named, state, claims, params, given, rfl⟩ := h
    exact .flow method known read named claims given
  case route text =>
    obtain ⟨method, id, known, body, read, place, fits, rfl⟩ := h
    exact .observe method known read fits
  case restart text =>
    split at h
    · obtain ⟨id, known, rfl⟩ := map_eq_ok_iff.1 h
      apply Asks.restart <;> assumption
    · cases h
  case progress text =>
    split at h
    · obtain ⟨id, known, rfl⟩ := map_eq_ok_iff.1 h
      apply Asks.progress <;> assumption
    · cases h

theorem command_of_asks (h : resource.Asks r c) : resource.command r = .ok c := by
  cases h <;> simp only [command, check_eq_ok_iff, bind_eq_ok_iff, pure_eq_ok_iff,
    fit_eq_ok_iff, ne_eq, Decidable.not_not]
  case health read => rw [if_pos read]
  case machines read => rw [if_pos read]
  case openSession method read fits => exact ⟨method, _, read, _, fits, rfl⟩
  case describe read known =>
    rw [if_pos read, known]
    rfl
  case close method known =>
    have writes : ¬isRead r.method = true := by
      rw [method]
      decide
    rw [if_neg writes, if_pos method, known]
    rfl
  case select method known read fits => exact ⟨method, _, known, _, read, _, fits, rfl⟩
  case tutorial method known read named claims =>
    exact ⟨method, _, known, _, read, _, named, _, claims, rfl⟩
  case flow method known read named claims given =>
    exact ⟨method, _, known, _, read, _, named, _, claims, _, given, rfl⟩
  case observe method known read fits => exact ⟨method, _, known, _, read, _, fits, rfl⟩
  case restart method known =>
    rw [if_pos method, known]
    rfl
  case progress read known =>
    rw [if_pos read, known]
    rfl

theorem command_eq_ok_iff : resource.command r = .ok c ↔ resource.Asks r c :=
  ⟨asks_of_command, command_of_asks⟩

/-- The id that stands in the path, as it is spelled. -/
def id? : Resource → Option (List Char)
  | health | machines | sessions => none
  | session id | features id | tutorial id | feature id | route id | restart id | progress id =>
    some id

end Resource

namespace Request

theorem command_eq_ok_iff : r.command = .ok c ↔
    ∃ resource, Resource.ofPath? r.path = some resource ∧ resource.Asks r c := by
  unfold command
  cases Resource.ofPath? r.path with
  | none => simp
  | some resource => simp [Resource.command_eq_ok_iff]

/-- The session whose id stands in the path. -/
def address? (r : Request) : Option Nat :=
  ((Resource.ofPath? r.path).bind Resource.id?).bind fun text => (readId text).toOption

end Request

namespace Command

/-- The session that a command is about. -/
def session? : Command → Option Nat
  | health | machines | openSession .. => none
  | describe id | close id | select id _ | tutorial id _ _ | flow id _ _ _ | observe id _
  | restart id | progress id => some id

/-- A command that tells something and changes nothing. -/
def isReading : Command → Bool
  | health | machines | describe _ | progress _ => true
  | openSession .. | close _ | select .. | tutorial .. | flow .. | observe .. | restart _ => false

/-- A command is about the session in the path of the request. -/
theorem session?_eq (h : r.command = .ok c) : c.session? = r.address? := by
  obtain ⟨resource, path, asks⟩ := Request.command_eq_ok_iff.1 h
  unfold Request.address?
  rw [path]
  cases asks <;> simp [session?, Resource.id?, Except.toOption, *]

theorem method_of_reading (h : r.command = .ok c) (reads : c.isReading = true) :
    r.method ∈ ["GET", "HEAD"] := by
  obtain ⟨resource, path, asks⟩ := Request.command_eq_ok_iff.1 h
  cases asks <;> simp_all [isReading, Resource.isRead]

theorem method_of_writing (h : r.command = .ok c) (writes : c.isReading = false) :
    r.method ∈ ["POST", "PUT", "DELETE"] := by
  obtain ⟨resource, path, asks⟩ := Request.command_eq_ok_iff.1 h
  cases asks <;> simp_all [isReading]

theorem method_ne_options (h : r.command = .ok c) : r.method ≠ "OPTIONS" := by
  cases reading : c.isReading with
  | true => have := method_of_reading h reading; grind
  | false => have := method_of_writing h reading; grind

theorem method_delete_iff (h : r.command = .ok c) : r.method = "DELETE" ↔ ∃ id, c = .close id := by
  obtain ⟨resource, path, asks⟩ := Request.command_eq_ok_iff.1 h
  cases asks <;> simp_all [Resource.isRead]
  all_goals grind

end Command

end GuidedTour.Service
