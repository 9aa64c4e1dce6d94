import GuidedTour.Proofs.Files.Spelling
import GuidedTour.Proofs.Json.Written
import GuidedTour.Proofs.Service.Effects
import GuidedTour.Proofs.Text.Plain
import GuidedTour.Script.Basic

/-! Steps of a script as requests to a session. What is sent for a step within the limits asks
for the operation of that step. -/
namespace GuidedTour

namespace Script.Step

/-- Where a step is sent to, under the id of the session. -/
def part : Step → String
  | select _ => "features"
  | step => step.tag

theorem part_plain (step : Step) :
    '/' ∉ step.part.toList ∧ '?' ∉ step.part.toList ∧ '#' ∉ step.part.toList := by
  cases step <;> (simp only [part, tag]; decide)

def body : Step → String
  | tutorial event => (Json.object [("event", .text event)]).compact
  | feature event mountType =>
    (Json.object (("event", .text event) ::
      mountType.toList.map fun m => ("mount_type", .text m))).compact
  | select features => (Json.object [("features", .list (features.map Feature.toJson))]).compact
  | route r => r.toJson.compact
  | restart | reset => ""

/-- The names are within the limits of a server, which has no request for a reset. -/
def InLimits : Step → Prop
  | tutorial event => 1 ≤ event.utf8ByteSize ∧ event.utf8ByteSize ≤ 64
  | feature event mountType =>
    (1 ≤ event.utf8ByteSize ∧ event.utf8ByteSize ≤ 64) ∧ ∀ m ∈ mountType, m.utf8ByteSize ≤ 128
  | select _ | restart => True
  | route r => 1 ≤ r.name.utf8ByteSize ∧ ∀ s ∈ r.name :: r.params, s.utf8ByteSize ≤ 256
  | reset => False

structure Sendable (step : Step) : Prop where
  names : step.InLimits
  body : step.body.utf8ByteSize ≤ 65536

end Script.Step

namespace Service

def sessionTarget (id : Nat) (part : String) : String :=
  "/sessions/" ++ toString id ++ "/" ++ part

/-- The request for a step in a session. -/
def Request.ofStep (headers : List (String × String)) (id : Nat) (step : Script.Step) :
    Request where
  method := match step with
    | .select _ => "PUT"
    | _ => "POST"
  target := sessionTarget id step.part
  headers
  body := step.body

/-- The request for a new session. -/
def Request.opening (headers : List (String × String)) (authenticated : Bool)
    (plan : Option (List Feature)) : Request where
  method := "POST"
  target := "/sessions"
  headers
  body := (Json.object (("authenticated", .flag authenticated) ::
    plan.toList.map fun fs => ("features", .list (fs.map Feature.toJson)))).compact

section Addresses

variable {id : Nat} {part : String}

theorem readId_toString (known : id ≤ maxId) : readId (toString id).toList = .ok id := by
  rw [readId, Text.Percent.decode?_plain (Text.notMem_toString (by decide)), String.ofList_toList]
  simp only [Option.bind_some, Text.unsigned?_toString known]

theorem notMem_sessionTarget {c : Char} (before : c ∉ "/sessions/".toList)
    (number : c.isDigit = false) (after : c ∉ part.toList) :
    c ∉ (sessionTarget id part).toList := by
  have slash : c ∉ "/".toList := fun mem => before (List.mem_append_left "sessions/".toList mem)
  simp only [sessionTarget, String.toList_append, List.mem_append, not_or]
  exact ⟨⟨⟨before, Text.notMem_toString number⟩, slash⟩, after⟩

theorem path_sessionTarget {r : Request} (target : r.target = sessionTarget id part)
    (query : '?' ∉ part.toList) (fragment : '#' ∉ part.toList) :
    r.path = "/sessions/".toList ++ ((toString id).toList ++ '/' :: part.toList) := by
  have chars : r.target.toList =
      "/sessions/".toList ++ ((toString id).toList ++ '/' :: part.toList) := by
    simp [target, sessionTarget]
  have rooted : r.target.toList.head? = some '/' := by
    rw [chars]
    rfl
  have noQuery : '?' ∉ r.target.toList :=
    target ▸ notMem_sessionTarget (by decide) (by decide) query
  have noFragment : '#' ∉ r.target.toList :=
    target ▸ notMem_sessionTarget (by decide) (by decide) fragment
  rw [← chars]
  simp only [Request.path, rooted, if_true]
  apply List.takeWhile_eq_self_iff.2
  intro c mem
  have notQuery : c ≠ '?' := fun same => noQuery (same ▸ mem)
  have notFragment : c ≠ '#' := fun same => noFragment (same ▸ mem)
  simp [notQuery, notFragment]

theorem path_congr {r other : Request} (same : r.target = other.target) : r.path = other.path := by
  simp only [Request.path, same]

theorem ofPath?_sessionTarget {r : Request} (target : r.target = sessionTarget id part)
    (plain : '/' ∉ part.toList ∧ '?' ∉ part.toList ∧ '#' ∉ part.toList) :
    Resource.ofPath? r.path = Resource.ofPart? (toString id).toList part := by
  rw [path_sessionTarget target plain.2.1 plain.2.2]
  have first : "/sessions/".toList ++ ((toString id).toList ++ '/' :: part.toList) =
      [] ++ '/' :: ("sessions".toList ++ '/' :: ((toString id).toList ++ '/' :: part.toList)) := by
    simp
  rw [Resource.ofPath?, first, Text.pieces_append_sep (by decide),
    Text.pieces_append_sep (by decide), Text.pieces_append_sep (Text.notMem_toString (by decide)),
    Text.pieces_of_notMem plain.1]
  simp

end Addresses

section Bodies

open Json (Fits Written texts?_texts)

theorem fits_texts (ss : List String) {depth : Nat} (shallow : depth < Json.maxDepth) :
    Fits depth (.list .text) (.texts ss) := by
  apply Fits.list shallow
  intro item mem
  obtain ⟨s, -, rfl⟩ := List.mem_map.1 mem
  exact .text

theorem list_toJson (fs : List Feature) :
    Json.list (fs.map Feature.toJson) = .texts (fs.map Feature.name) := by
  simp [Json.texts, Feature.toJson, Function.comp_def]

theorem parseFeatures_name (fs : List Feature) : parseFeatures (fs.map Feature.name) = .ok fs := by
  have one (f : Feature) : Feature.parse f.name = .ok f := by cases f <;> decide +kernel
  have known : Feature.parseAll (fs.map Feature.name) = .ok fs := Json.mapM_written one fs
  rw [parseFeatures, known]
  rfl

theorem readBody_compact {declared : List Json.Field} {take : List (String × Json) → Option α}
    {fields : List (String × Json)} {a : α} (written : Written declared fields)
    (taken : take fields = some a) :
    Service.readBody declared take (Json.object fields).compact = .ok a := by
  rw [Service.readBody, Json.readRecord_compact written]
  simp only [bind, Except.bind, taken]
  rfl

theorem read_tutorial (event : String) :
    EventBody.read (Script.Step.tutorial event).body = .ok ⟨event, none, none⟩ :=
  readBody_compact (.one rfl .text (by simp [EventBody.fields])) rfl

theorem read_feature (event : String) (mountType : Option String) :
    EventBody.read (Script.Step.feature event mountType).body = .ok ⟨event, none, mountType⟩ := by
  cases mountType with
  | none => exact read_tutorial event
  | some m =>
    exact readBody_compact
      (.two rfl .text rfl (.given .text) (by decide) (by simp [EventBody.fields])) rfl

theorem read_select (fs : List Feature) :
    PlanBody.read (Script.Step.select fs).body = .ok ⟨fs.map Feature.name⟩ := by
  change PlanBody.read (Json.object [("features", .list (fs.map Feature.toJson))]).compact = _
  rw [list_toJson]
  apply readBody_compact (.one rfl (fits_texts _ (by decide)) (by simp [PlanBody.fields]))
  simp [Wire.required?, Wire.field?, texts?_texts]

theorem read_route (r : Route) : RouteBody.read (Script.Step.route r).body = .ok ⟨r⟩ := by
  apply readBody_compact (.two rfl .text rfl (fits_texts _ (by decide)) (by decide)
    (by simp [RouteBody.fields]))
  have params : Wire.default? [("route", .text r.name), ("params", .texts r.params)] "params" []
      Json.texts? = some r.params := texts?_texts r.params
  simp [params, Wire.required?, Wire.field?, Json.text?]

theorem read_opening (headers : List (String × String)) (authenticated : Bool)
    (plan : Option (List Feature)) :
    OpenBody.read (Request.opening headers authenticated plan).body =
      .ok ⟨authenticated, plan.map (·.map Feature.name)⟩ := by
  cases plan with
  | none => exact readBody_compact (.one rfl .flag (by simp [OpenBody.fields])) rfl
  | some fs =>
    change OpenBody.read (Json.object [("authenticated", .flag authenticated),
      ("features", .list (fs.map Feature.toJson))]).compact = _
    rw [list_toJson]
    apply readBody_compact (.two rfl .flag rfl (.given (fits_texts _ (by decide))) (by decide)
      (by simp [OpenBody.fields]))
    have names : Wire.optional? [("authenticated", .flag authenticated),
        ("features", .texts (fs.map Feature.name))] "features" Json.texts? =
      some (some (fs.map Feature.name)) := congrArg (Option.map some) (texts?_texts _)
    simp [names, Wire.default?, Wire.field?, Json.flag?]

end Bodies

/-- Headers that declare JSON and show the key. -/
structure Host.Accepts (host : Host) (headers : List (String × String)) : Prop where
  typed : ((⟨"", "", headers, ""⟩ : Request).header? "content-type").any MediaType.isJson = true
  admitted : host.key.all (admits · ((⟨"", "", headers, ""⟩ : Request).header? "authorization")) =
    true

section Requests

variable {host : Host} {headers : List (String × String)} {r : Request} {id : Nat}

theorem Host.Accepts.isAdmitted (h : host.Accepts headers) (same : r.headers = headers) :
    host.isAdmitted r = true := by
  subst same
  have admitted := h.admitted
  unfold Host.isAdmitted
  cases key : host.key with
  | none => rfl
  | some k =>
    rw [key] at admitted
    exact Bool.or_eq_true_iff.2 (.inr admitted)

theorem Host.Accepts.readBody {read : String → Except Json.Fault α} {a : α}
    (h : host.Accepts headers) (same : r.headers = headers) (small : r.body.utf8ByteSize ≤ 65536)
    (reads : read r.body = .ok a) : r.readBody read = .ok a := by
  subst same
  have typed : (r.header? "content-type").any MediaType.isJson = true := h.typed
  have fits : ¬maxBodyBytes < r.body.utf8ByteSize := Nat.not_lt.2 small
  rw [Request.readBody, typed, if_neg fits, reads]
  rfl

theorem checkName_eq_ok {field value : String}
    (h : 1 ≤ value.utf8ByteSize ∧ value.utf8ByteSize ≤ 64) : checkName field value = .ok () := by
  have some : ¬value.isEmpty = true := by
    rw [String.isEmpty_iff]
    rintro rfl
    exact absurd h.1 (by decide)
  rw [checkName, if_neg some]
  exact if_neg (Nat.not_lt.2 h.2)

theorem toEvent_eq_ok {event : String} {mountType : Option String}
    (h : 1 ≤ event.utf8ByteSize ∧ event.utf8ByteSize ≤ 64) :
    (⟨event, none, mountType⟩ : EventBody).toEvent = .ok event := by
  rw [EventBody.toEvent, checkName_eq_ok h]
  rfl

theorem toParams_eq_ok {event : String} {mountType : Option String}
    (h : ∀ m ∈ mountType, m.utf8ByteSize ≤ 128) :
    (⟨event, none, mountType⟩ : EventBody).toParams = .ok (mountType.map fun m => ⟨some m⟩) := by
  cases mountType with
  | none => rfl
  | some m => exact if_neg (Nat.not_lt.2 (h m rfl))

theorem toRoute_eq_ok {r : Route} (some : 1 ≤ r.name.utf8ByteSize)
    (h : ∀ s ∈ r.name :: r.params, s.utf8ByteSize ≤ 256) :
    (⟨r⟩ : RouteBody).toRoute = .ok r := by
  have named : ¬r.name.isEmpty = true := by
    rw [String.isEmpty_iff]
    intro empty
    rw [empty] at some
    exact absurd some (by decide)
  have short : (r.name :: r.params).find? (maxRouteBytes < ·.utf8ByteSize) = none := by
    rw [List.find?_eq_none]
    intro s mem
    exact decide_eq_true_iff.not.2 (Nat.not_lt.2 (h s mem))
  rw [RouteBody.toRoute, if_neg named, short]

theorem command_of_part {step : Script.Step} {resource : Resource} {c : Command}
    (named : Resource.ofPart? (toString id).toList step.part = some resource)
    (asks : resource.Asks (Request.ofStep headers id step) c) :
    (Request.ofStep headers id step).command = .ok c :=
  Request.command_eq_ok_iff.2
    ⟨resource, (ofPath?_sessionTarget rfl step.part_plain).trans named, asks⟩

/-- What is sent for a step asks for the operation of that step. -/
theorem command_ofStep {step : Script.Step} (accepts : host.Accepts headers)
    (sendable : step.Sendable) (known : id ≤ maxId) :
    ∃ c, (Request.ofStep headers id step).command = .ok c ∧ c.session? = some id ∧
      c.operation? = some step.operation := by
  obtain ⟨names, small⟩ := sendable
  have text := readId_toString known
  cases step with
  | tutorial event =>
    have body : (Request.ofStep headers id (.tutorial event)).readBody EventBody.read = .ok _ :=
      accepts.readBody rfl small (read_tutorial event)
    have asks := Resource.Asks.tutorial rfl text body (toEvent_eq_ok names) rfl
    exact ⟨_, command_of_part rfl asks, rfl, rfl⟩
  | feature event mountType =>
    have body : (Request.ofStep headers id (.feature event mountType)).readBody EventBody.read =
      .ok _ := accepts.readBody rfl small (read_feature event mountType)
    have asks :=
      Resource.Asks.flow rfl text body (toEvent_eq_ok names.1) rfl (toParams_eq_ok names.2)
    exact ⟨_, command_of_part rfl asks, rfl, rfl⟩
  | select features =>
    have body : (Request.ofStep headers id (.select features)).readBody PlanBody.read = .ok _ :=
      accepts.readBody rfl small (read_select features)
    have asks := Resource.Asks.select rfl text body (parseFeatures_name features)
    exact ⟨_, command_of_part rfl asks, rfl, rfl⟩
  | route r =>
    have body : (Request.ofStep headers id (.route r)).readBody RouteBody.read = .ok _ :=
      accepts.readBody rfl small (read_route r)
    have asks := Resource.Asks.observe rfl text body (toRoute_eq_ok names.1 names.2)
    exact ⟨_, command_of_part rfl asks, rfl, rfl⟩
  | restart => exact ⟨_, command_of_part rfl (.restart rfl text), rfl, rfl⟩
  | reset => cases names

theorem command_opening {authenticated : Bool} {plan : Option (List Feature)}
    (accepts : host.Accepts headers)
    (small : (Request.opening headers authenticated plan).body.utf8ByteSize ≤ 65536) :
    (Request.opening headers authenticated plan).command =
      .ok (.openSession authenticated plan) := by
  have path : Resource.ofPath? (Request.opening headers authenticated plan).path =
      some .sessions := by
    have same : (Request.opening headers authenticated plan).path =
        (⟨"POST", "/sessions", [], ""⟩ : Request).path := path_congr rfl
    rw [same]
    decide
  have body : (Request.opening headers authenticated plan).readBody OpenBody.read = .ok _ :=
    accepts.readBody rfl small (read_opening headers authenticated plan)
  refine Request.command_eq_ok_iff.2 ⟨.sessions, path, .openSession rfl body ?_⟩
  cases plan with
  | none => rfl
  | some fs =>
    change (parseFeatures (fs.map Feature.name)).map some = _
    rw [parseFeatures_name]
    rfl

end Requests

end Service

end GuidedTour
