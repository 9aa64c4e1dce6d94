import GuidedTour.Proofs.Service.Effects

/-! What the limiter changes for those who call, however it decides. A call that it does not let
through is answered 429, whatever it asks for, and leaves the sessions alone. Any other call is
answered as behind the limiter, and there nothing is ever answered 429. So the answers tell which
calls were let through, and a run comes to what these calls make of it. -/
namespace GuidedTour.Service

variable {host : Host} {limiter : Limiter} {s : State} {call : Call} {calls rest : List Call}

theorem Refusal.status_ne_limited (refusal : Refusal) : refusal.status ≠ 429 := by
  cases refusal with
  | unreadable fault => cases fault <;> simp [status]
  | _ => simp [status]

namespace Host

variable {through : Bool} {r : Request} {sessions : Sessions}

theorem status_respond_ne (host : Host) (sessions : Sessions) (r : Request) :
    (host.respond sessions r).1.status ≠ 429 := by
  intro status
  change (host.reply sessions r).1.status = 429 at status
  obtain ⟨-, ⟨refusal, refused⟩ | ⟨-, told⟩⟩ | ⟨c, -, -, effect⟩ := host.reply_cases sessions r
  · rw [refused] at status
    exact refusal.status_ne_limited status
  · omega
  · have := effect.status_lt
    omega

theorem status_answer_limited : (host.answer r .limited).status = 429 := rfl

/-- What becomes of a request and of the sessions, by whether it is let through. -/
def turn (host : Host) (through : Bool) (sessions : Sessions) (r : Request) : Response × Sessions :=
  if through then host.respond sessions r else (host.answer r .limited, sessions)

@[simp] theorem turn_true : host.turn true sessions r = host.respond sessions r := rfl

@[simp] theorem turn_false : host.turn false sessions r = (host.answer r .limited, sessions) := rfl

theorem status_turn (host : Host) (through : Bool) (sessions : Sessions) (r : Request) :
    (host.turn through sessions r).1.status = 429 ↔ through = false := by
  cases through with
  | false => exact iff_of_true rfl rfl
  | true => exact iff_of_false (host.status_respond_ne sessions r) Bool.noConfusion

theorem handle_of_lets (through : host.lets limiter s call = true) :
    (host.handle limiter s call).1 = (host.reply s.sessions call.request).1 ∧
      (host.handle limiter s call).2.sessions = (host.reply s.sessions call.request).2 := by
  unfold handle
  simp [through]

theorem handle_of_not_lets (away : host.lets limiter s call = false) :
    (host.handle limiter s call).1 = .limited ∧
      (host.handle limiter s call).2.sessions = s.sessions := by
  unfold handle
  simp [away]

theorem handle_through (through : (host.handle limiter s call).1.status ≠ 429) :
    (host.handle limiter s call).1 = (host.reply s.sessions call.request).1 ∧
      (host.handle limiter s call).2.sessions = (host.reply s.sessions call.request).2 := by
  cases passes : host.lets limiter s call with
  | true => exact handle_of_lets passes
  | false => exact absurd (congrArg Reply.status (handle_of_not_lets passes).1) through

/-- The limiter decides whether a call gets to the sessions, and nothing else about it. -/
theorem answer_serve : (host.serve limiter s call).1 =
    (host.turn (host.lets limiter s call) s.sessions call.request).1 := by
  change host.answer call.request (host.handle limiter s call).1 = _
  cases through : host.lets limiter s call with
  | true => rw [(handle_of_lets through).1, turn_true, respond_eq]
  | false => rw [(handle_of_not_lets through).1, turn_false]

theorem sessions_serve : (host.serve limiter s call).2.sessions =
    (host.turn (host.lets limiter s call) s.sessions call.request).2 := by
  change (host.handle limiter s call).2.sessions = _
  cases through : host.lets limiter s call with
  | true => rw [(handle_of_lets through).2, turn_true, respond_eq]
  | false => rw [(handle_of_not_lets through).2, turn_false]

theorem status_serve (host : Host) (limiter : Limiter) (s : State) (call : Call) :
    (host.serve limiter s call).1.status = 429 ↔ host.lets limiter s call = false := by
  rw [answer_serve, status_turn]

theorem lets_of_unlimited (unlimited : host.quota = none) : host.lets limiter s call = true := by
  simp [lets, quotaFor?, unlimited]

@[simp] theorem serveAll_nil : host.serveAll limiter s [] = ([], s) := rfl

@[simp] theorem serveAll_cons : host.serveAll limiter s (call :: rest) =
    ((host.serve limiter s call).1 :: (host.serveAll limiter (host.serve limiter s call).2 rest).1,
      (host.serveAll limiter (host.serve limiter s call).2 rest).2) := rfl

@[simp] theorem handleAll_nil : host.handleAll limiter s [] = ([], s) := rfl

@[simp] theorem handleAll_cons : host.handleAll limiter s (call :: rest) =
    ((host.handle limiter s call).1 ::
        (host.handleAll limiter (host.handle limiter s call).2 rest).1,
      (host.handleAll limiter (host.handle limiter s call).2 rest).2) := rfl

/-- The requests of a run that are let through. -/
def passed (host : Host) (limiter : Limiter) (s : State) : List Call → List Request
  | [] => []
  | call :: rest =>
    let later := passed host limiter (host.serve limiter s call).2 rest
    if host.lets limiter s call then call.request :: later else later

/-- A run leaves the sessions that the calls leave which are let through. -/
theorem sessions_serveAll (host : Host) (limiter : Limiter) (s : State) (calls : List Call) :
    (host.serveAll limiter s calls).2.sessions =
      (host.respondAll s.sessions (host.passed limiter s calls)).2 := by
  induction calls generalizing s with
  | nil => rfl
  | cons call rest ih =>
    rw [serveAll_cons, ih, sessions_serve, passed]
    cases host.lets limiter s call <;> rfl

/-- Whoever is let through is answered as behind the limiter. -/
theorem answers_serveAll (host : Host) (limiter : Limiter) (s : State) (calls : List Call) :
    (host.serveAll limiter s calls).1.filter (·.status ≠ 429) =
      (host.respondAll s.sessions (host.passed limiter s calls)).1 := by
  induction calls generalizing s with
  | nil => rfl
  | cons call rest ih =>
    rw [serveAll_cons, List.filter_cons, ih, sessions_serve, answer_serve, passed]
    cases host.lets limiter s call with
    | false => simp [status_answer_limited]
    | true => simp [status_respond_ne]

theorem passed_of_unlimited (unlimited : host.quota = none) :
    host.passed limiter s calls = calls.map (·.request) := by
  induction calls generalizing s with
  | nil => rfl
  | cons call rest ih => simp [passed, lets_of_unlimited unlimited, ih]

end Host

end GuidedTour.Service
