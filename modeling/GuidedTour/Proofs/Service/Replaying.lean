import GuidedTour.Proofs.Script.Replaying
import GuidedTour.Proofs.Service.Delivery
import GuidedTour.Proofs.Service.Lifecycle
import GuidedTour.Proofs.Service.Sending

/-! A server replays scripts. Sending the steps of a script to a session, one by one, comes to the
same as replaying the script: the same state after each step, the same outcome and the same
intents. A step that the limiter turns away is not performed, so this is about those that it lets
through. -/
namespace GuidedTour

namespace Service

namespace Sessions

variable {s : Sessions} {id : Nat} {t u : Tour}

@[simp] theorem replace_insert : (s.insert t).replace s.nextId u = s.insert u := by
  have others : ∀ e ∈ (s.erase s.nextId).entries,
      (if e.1 = s.nextId then (s.nextId, u) else e) = id e := by
    intro e mem
    have other : e.1 ≠ s.nextId := by simpa [erase] using (List.mem_filter.1 mem).2
    rw [if_neg other]
    rfl
  simp only [insert, replace, List.map_append, List.map_congr_left others, List.map_id]
  simp

end Sessions

namespace Host

variable {host : Host} {limiter : Limiter} {s : Sessions} {st : State} {call : Call}
  {headers : List (String × String)} {id : Nat} {t : Tour}

/-- The reply that tells what came of a step. -/
def replyTo (id : Nat) (e : Script.Entry) : Reply :=
  let view := View.of id e.after e.intents
  match e.step, e.outcome with
  | .route _, _ => .done
  | _, some outcome => .moved outcome view
  | _, none => .described view

theorem reply_ofStep {step : Script.Step} (accepts : host.Accepts headers)
    (sendable : step.Sendable) (known : id ≤ maxId) (found : s.find? id = some t)
    (drained : t.intents = []) :
    host.reply s (.ofStep headers id step) = (replyTo id (Script.perform t step),
      s.replace id (Script.perform t step).after) := by
  obtain ⟨c, asks, about, operation⟩ := command_ofStep accepts sendable known
  rw [reply_admitted (accepts.isAdmitted rfl) asks]
  cases step with
  | route r =>
    have observes : c = .observe id r := by
      cases c <;> simp_all [Command.session?, Command.operation?, Script.Step.operation]
    subst observes
    have same : (Script.perform t (.route r)).after = t.observe r := by
      obtain ⟨registry, session, intents⟩ := t
      obtain rfl : intents = [] := drained
      rfl
    rw [same]
    simp only [execute, found]
    rfl
  | tutorial | feature | select | restart | reset =>
    rw [execute_operation host s about operation fun _ => by simp [Script.Step.operation], found]
    dsimp only [replyTo, Reply.told, Script.perform]
    cases (t.step _).1 <;> rfl

theorem handleAll_ofStep {steps : List Script.Step} {calls : List Call}
    (accepts : host.Accepts headers) (sendable : ∀ step ∈ steps, step.Sendable)
    (known : s.nextId ≤ maxId) (drained : t.intents = []) (opened : st.sessions = s.insert t)
    (asks : calls.map (·.request) = steps.map (.ofStep headers s.nextId)) :
    let served := host.handleAll limiter st calls
    (∀ reply ∈ served.1, reply.status ≠ 429) →
      served.1 = (Script.replay t steps).1.map (replyTo s.nextId) ∧
        served.2.sessions = s.insert (Script.replay t steps).2 := by
  induction steps generalizing t st calls with
  | nil =>
    obtain rfl := List.map_eq_nil_iff.1 asks
    exact fun _ => ⟨rfl, opened⟩
  | cons step rest ih =>
    obtain ⟨call, more, rfl, sent, asks⟩ := List.map_eq_cons_iff.1 asks
    simp only [handleAll_cons, List.forall_mem_cons]
    rintro ⟨through, later⟩
    obtain ⟨told, next⟩ := handle_through through
    have found : st.sessions.find? s.nextId = some t := by
      rw [opened, Sessions.find?_insert, if_pos rfl]
    have one := reply_ofStep accepts (sendable step List.mem_cons_self) known found drained
    rw [sent, one] at told next
    rw [opened, Sessions.replace_insert] at next
    obtain ⟨replies, last⟩ := ih (fun step mem => sendable step (List.mem_cons_of_mem _ mem))
      (Script.intents_after_perform t step) next asks later
    rw [told, replies, last, Script.replay_cons]
    exact ⟨rfl, rfl⟩

/-- Nothing is handed over for a route, and nothing is left out: it has no outcome and no
intents. -/
theorem silent_route {steps : List Script.Step} {e : Script.Entry} {r : Route}
    (drained : t.intents = []) (mem : e ∈ (Script.replay t steps).1) (route : e.step = .route r) :
    e.outcome = none ∧ e.intents = [] := by
  induction steps generalizing t with
  | nil => cases mem
  | cons step rest ih =>
    rw [Script.replay_cons] at mem
    obtain rfl | mem := List.mem_cons.1 mem
    · change step = _ at route
      subst route
      exact ⟨rfl, drained⟩
    · exact ih (Script.intents_after_perform t step) mem

/-- What a client is told of a step is what the replay logs of it: the outcome, if there is one, and
the intents, both as they are read in the answer, and the state after it. Only for a route there is
nothing to tell. -/
structure Tells (host : Host) (headers : List (String × String)) (id : Nat) (e : Script.Entry)
    (reply : Reply) : Prop where
  outcome : (host.answer (.ofStep headers id e.step) reply).content.outcome? = e.outcome
  intents : (host.answer (.ofStep headers id e.step) reply).handed = e.intents
  view : (∃ r, e.step = .route r) ∧ reply = .done ∨
    ∃ view, reply.view? = some view ∧ view.id = id ∧ view.session = e.after.session

theorem method_ofStep (headers : List (String × String)) (id : Nat) (step : Script.Step) :
    (Request.ofStep headers id step).method ≠ "HEAD" := by
  unfold Request.ofStep
  cases step <;> simp

theorem tells_replyTo (host : Host) (headers : List (String × String)) (id : Nat) {e : Script.Entry}
    (silent : ∀ r, e.step = .route r → e.outcome = none ∧ e.intents = []) :
    host.Tells headers id e (replyTo id e) := by
  obtain ⟨step, outcome, intents, after⟩ := e
  have method := method_ofStep headers id step
  have told : (replyTo id ⟨step, outcome, intents, after⟩).outcome? = outcome ∧
      ((replyTo id ⟨step, outcome, intents, after⟩).view?.map (·.intents)).getD [] = intents ∧
      ((∃ r, step = .route r) ∧ replyTo id ⟨step, outcome, intents, after⟩ = .done ∨
        ∃ view, (replyTo id ⟨step, outcome, intents, after⟩).view? = some view ∧ view.id = id ∧
          view.session = after.session) := by
    cases step with
    | route r =>
      obtain ⟨rfl, rfl⟩ := silent r rfl
      exact ⟨rfl, rfl, .inl ⟨⟨r, rfl⟩, rfl⟩⟩
    | _ => cases outcome <;> exact ⟨rfl, rfl, .inr ⟨_, rfl, rfl, rfl⟩⟩
  obtain ⟨outcomes, handed, view⟩ := told
  refine ⟨?_, ?_, view⟩
  · rw [outcome?_answer _ _ _ method, outcomes]
  · rw [handed_answer, if_neg method, handed]

theorem reply_opening {authenticated : Bool} {plan : Option (List Feature)}
    (accepts : host.Accepts headers) (room : s.size < host.limit)
    (small : (Request.opening headers authenticated plan).body.utf8ByteSize ≤ 65536) :
    let t := host.welcome authenticated (plan.getD host.plan)
    host.reply s (.opening headers authenticated plan) =
      (.opened (.of s.nextId t.takeIntents.2 t.takeIntents.1), s.insert t.takeIntents.2) := by
  rw [reply_admitted (accepts.isAdmitted rfl) (command_opening accepts small)]
  dsimp only [execute]
  rw [if_neg (Nat.not_le.2 room)]

/-- Logging in and selecting a plan later comes to the same as opening with both. -/
theorem welcome_later (host : Host) (plan : List Feature) :
    (((Tour.enter host.registry).restart.2.takeIntents.2).select plan).takeIntents.2 =
      (host.welcome true plan).takeIntents.2 := by
  rw [welcome_eq]
  exact Tour.step_takeIntents _ (.select plan)

/-- A session is opened for nobody, and then the steps of a script are sent. -/
theorem handleAll_opening {steps : List Script.Step} {plan : Option (List Feature)} {opening : Call}
    {calls : List Call} (accepts : host.Accepts headers) (room : st.sessions.size < host.limit)
    (known : st.sessions.nextId ≤ maxId) (opens : opening.request = .opening headers false plan)
    (small : (Request.opening headers false plan).body.utf8ByteSize ≤ 65536)
    (sendable : ∀ step ∈ steps, step.Sendable)
    (asks : calls.map (·.request) = steps.map (.ofStep headers st.sessions.nextId)) :
    let replayed := Script.replay (Tour.enter host.registry).takeIntents.2 steps
    let opened := host.handle limiter st opening
    let served := host.handleAll limiter opened.2 calls
    opened.1.status ≠ 429 → (∀ reply ∈ served.1, reply.status ≠ 429) →
      served.1 = replayed.1.map (replyTo st.sessions.nextId) ∧
        served.2.sessions = st.sessions.insert replayed.2 := by
  intro replayed opened served through
  obtain ⟨-, next⟩ := handle_through through
  rw [opens, reply_opening accepts room small] at next
  exact handleAll_ofStep accepts sendable known rfl next asks

/-- The steps of a script that are sent to a session do to it what the script does, and each is
answered with what its replay logs, if the limiter lets all of them through. And to open a session
with a plan for an authenticated operator comes to the same as to open one without, to start over
and to select the plan. -/
theorem script_served (host : Host) (limiter : Limiter) (earlier : List Call)
    (headers : List (String × String)) (accepts : host.Accepts headers)
    (room : (host.serveAll limiter {} earlier).2.sessions.size < host.limit) :
    let s := (host.serveAll limiter {} earlier).2
    let id := s.sessions.nextId
    (∀ plan steps opening calls, (Request.opening headers false plan).body.utf8ByteSize ≤ 65536 →
      (∀ step ∈ steps, step.Sendable) → opening.request = .opening headers false plan →
      calls.map (·.request) = steps.map (.ofStep headers id) →
        let opened := host.handle limiter s opening
        let served := host.handleAll limiter opened.2 calls
        let replayed := Script.replay (Tour.enter host.registry).takeIntents.2 steps
        opened.1.status ≠ 429 → (∀ reply ∈ served.1, reply.status ≠ 429) →
          (host.answer opening.request opened.1).opened? = some (some (.nat id)) ∧
          List.Forall₂ (host.Tells headers id) replayed.1 served.1 ∧
          served.2.sessions.find? id = some replayed.2) ∧
    ∀ plan other opening calls, (Request.opening headers true plan).body.utf8ByteSize ≤ 65536 →
      (Request.opening headers false other).body.utf8ByteSize ≤ 65536 →
      (Script.Step.select (plan.getD host.plan)).Sendable →
      opening.request = .opening headers true plan →
      calls.map (·.request) = [.opening headers false other, .ofStep headers id .restart,
        .ofStep headers id (.select (plan.getD host.plan))] →
        let opened := host.handle limiter s opening
        let later := host.handleAll limiter s calls
        opened.1.status ≠ 429 → (∀ reply ∈ later.1, reply.status ≠ 429) →
          opened.2.sessions = later.2.sessions := by
  intro s id
  have known : id ≤ maxId := by
    unfold id s
    rw [sessions_serveAll]
    exact nextId_respondAll (by decide) _
  constructor
  · intro plan steps opening calls small sendable opens asks opened served replayed through later
    obtain ⟨replies, last⟩ :=
      handleAll_opening accepts room known opens small sendable asks through later
    obtain ⟨told, -⟩ := handle_through through
    refine ⟨?_, ?_, ?_⟩
    · rw [told, opens, reply_opening accepts room small]
      exact opened?_opened (command_opening accepts small)
    · rw [replies, List.forall₂_map_right_iff, List.forall₂_same]
      exact fun e mem => tells_replyTo host headers id fun r => silent_route rfl mem
    · rw [last, Sessions.find?_insert, if_pos rfl]
  · intro plan other opening calls small small' sendable opens asks opened later through through'
    have login : ∀ step ∈ [Script.Step.restart, .select (plan.getD host.plan)], step.Sendable := by
      simpa [sendable] using (⟨trivial, by decide⟩ : Script.Step.restart.Sendable)
    obtain ⟨call, more, rfl, plain, asks⟩ := List.map_eq_cons_iff.1 asks
    simp only [later, handleAll_cons, List.forall_mem_cons] at through' ⊢
    obtain ⟨-, last⟩ := handleAll_opening accepts room known plain small' login asks
      through'.1 through'.2
    obtain ⟨-, next⟩ := handle_through through
    rw [opens, reply_opening accepts room small] at next
    rw [next, last, ← welcome_later]
    rfl

/-- A script that starts over, selects a plan and goes through a part of it. -/
theorem script_served_continued :
    let host : Host := ⟨.builtin, [.policies], 1, some "key", .any, some 9⟩
    let headers := [("content-type", "application/json"), ("authorization", "Bearer key")]
    let steps : List Script.Step :=
      [.restart, .select [.tools], .feature "CONTINUE" none, .route ⟨"vault.cluster", []⟩]
    let opening (authenticated : Bool) : Call := ⟨.opening headers authenticated none, 0⟩
    let calls : List Call := steps.map fun step => ⟨.ofStep headers 1 step, 0⟩
    let login : List Call :=
      [opening false, ⟨.ofStep headers 1 .restart, 0⟩, ⟨.ofStep headers 1 (.select [.policies]), 0⟩]
    let served := host.handleAll .atOnce (host.handle .atOnce {} (opening false)).2 calls
    let replayed := Script.replay (Tour.enter .builtin).takeIntents.2 steps
    List.Forall₂ (host.Tells headers 1) replayed.1 served.1 ∧
      served.2.sessions.find? 1 = some replayed.2 ∧
      (host.handle .atOnce {} (opening true)).2.sessions =
        (host.handleAll .atOnce {} login).2.sessions := by
  intro host headers steps opening calls login served replayed
  have accepts : host.Accepts headers := ⟨by decide +kernel, by decide +kernel⟩
  obtain ⟨replays, opens⟩ := script_served host .atOnce [] headers accepts (by decide)
  have restart : Script.Step.restart.Sendable := ⟨trivial, by decide⟩
  have select (f : Feature) : (Script.Step.select [f]).Sendable := by
    cases f <;> exact ⟨trivial, by decide +kernel⟩
  have feature : (Script.Step.feature "CONTINUE" none).Sendable :=
    ⟨⟨by decide, nofun⟩, by decide +kernel⟩
  have route : (Script.Step.route ⟨"vault.cluster", []⟩).Sendable :=
    ⟨⟨by decide, by decide⟩, by decide +kernel⟩
  have small (authenticated) :
      (Request.opening headers authenticated none).body.utf8ByteSize ≤ 65536 := by
    cases authenticated <;> decide +kernel
  have sendable : ∀ step ∈ steps, step.Sendable := by simp [steps, restart, select, feature, route]
  obtain ⟨-, tells, last⟩ := replays none steps (opening false) calls (small _) sendable rfl
    (by simp [calls, List.map_map, Function.comp_def]) (by decide +kernel) (by decide +kernel)
  refine ⟨tells, last, ?_⟩
  exact opens none none (opening true) login (small _) (small _) (select .policies) rfl rfl
    (by decide +kernel) (by decide +kernel)

/-- A session is opened, but who starts over right after that is turned away. -/
theorem script_served_crowded :
    let host : Host := ⟨.builtin, [], 1, none, .any, some 1⟩
    let headers := [("content-type", "application/json")]
    let opening : Call := { request := .opening headers false none }
    let restart : Call := { request := .ofStep headers 1 .restart }
    let served := host.handleAll .atOnce {} [opening, restart]
    let replayed := Script.replay (Tour.enter .builtin).takeIntents.2 [.restart]
    served.1.map (·.status) = [201, 429] ∧
      (served.2.sessions.find? 1).map (·.session.tutorial) = some "idle" ∧
      replayed.2.session.tutorial = "active.select" := by
  decide +kernel

end Host

end Service

end GuidedTour
