import GuidedTour.Proofs.Script.Exchange
import GuidedTour.Service.Server

/-! What a client reads in an answer: the intents that it is handed, and the outcome of an event.
Both are read from the value that is sent, and are what the reply tells. -/
namespace GuidedTour

namespace Action

theorem ofJson?_toJson (action : Action) : ofJson? action.toJson = some action :=
  ofJson?_variant (.refl _)

/-- Reads a list of actions. -/
def ofList? (j : Json) : Option (List Action) := j.list?.bind (·.mapM ofJson?)

theorem ofList?_toJson (actions : List Action) :
    ofList? (.list (actions.map toJson)) = some actions :=
  Json.mapM_written ofJson?_toJson actions

end Action

namespace Outcome

/-- Reads an outcome, by the names of its fields. -/
def ofJson? (j : Json) : Option Outcome := do
  let fields ← j.fields?
  let state ← (fields.lookup "value").bind Json.text?
  let actions ← (fields.lookup "actions").bind Action.ofList?
  let handled ← (fields.lookup "handled").bind Json.flag?
  return ⟨state, actions, handled⟩

theorem ofJson?_toJson (o : Outcome) : ofJson? o.toJson = some o := by
  have actions := Action.ofList?_toJson o.actions
  unfold ofJson? toJson
  simp only [Json.fields?, Option.bind_eq_bind, Option.bind_some]
  change (do
    let actions ← Action.ofList? (.list (o.actions.map Action.toJson))
    some (⟨o.state, actions, o.handled⟩ : Outcome)) = some o
  rw [actions]
  rfl

end Outcome

namespace Service

namespace Content

def field? (content : Content) (name : String) : Option Json :=
  match content with
  | json value => value.fields?.bind (·.lookup name)
  | text _ | empty => none

/-- What stands in the place of intents. Where an outcome is told, this is in the session beside
it. -/
def place? (content : Content) : Option Json :=
  (content.field? "intents").or
    (((content.field? "session").bind Json.fields?).bind (·.lookup "intents"))

/-- The intents that are sent. -/
def intents? (content : Content) : Option (List Action) := content.place?.bind Action.ofList?

def outcome? (content : Content) : Option Outcome := (content.field? "result").bind Outcome.ofJson?

end Content

namespace Reply

/-- What a reply tells about a session. -/
def view? : Reply → Option View
  | opened view | described view | moved _ view => some view
  | health | machines _ | progress _ | done | preflight | refused _ | limited => none

def outcome? : Reply → Option Outcome
  | moved outcome _ => some outcome
  | health | machines _ | opened _ | described _ | progress _ | done | preflight | refused _
  | limited => none

theorem place?_content (reply : Reply) :
    reply.content.place? = reply.view?.map fun view => .list (view.intents.map Action.toJson) := by
  cases reply with
  | refused refusal => cases refusal <;> rfl
  | _ => rfl

theorem outcome?_content (reply : Reply) : reply.content.outcome? = reply.outcome? := by
  cases reply with
  | moved outcome _ => exact outcome.ofJson?_toJson
  | refused refusal => cases refusal <;> rfl
  | _ => rfl

end Reply

namespace Host

variable (host : Host) (r : Request) (reply : Reply)

theorem place?_answer : (host.answer r reply).content.place? =
    if r.method = "HEAD" then none else reply.content.place? := by
  unfold answer
  dsimp only
  split
  · cases reply.content <;> rfl
  · rfl

/-- The intents that are read are those that the reply tells, but for an answer without content. -/
theorem intents?_answer : (host.answer r reply).content.intents? =
    if r.method = "HEAD" then none else reply.view?.map (·.intents) := by
  rw [Content.intents?, place?_answer, Reply.place?_content]
  split
  · rfl
  · cases reply.view? with
    | none => rfl
    | some view => exact Action.ofList?_toJson view.intents

theorem outcome?_answer (told : r.method ≠ "HEAD") :
    (host.answer r reply).content.outcome? = reply.outcome? := by
  rw [← Reply.outcome?_content]
  unfold answer
  rw [if_neg told]

end Host

end Service

end GuidedTour
