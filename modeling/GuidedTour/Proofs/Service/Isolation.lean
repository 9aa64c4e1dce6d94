import GuidedTour.Proofs.Service.Limiting

/-! Sessions do not disturb each other. What a request does is decided by the one session that
it is addressed to, and is done to that session alone. So requests to different sessions may
change places, and a client is served as if nobody else were there. The limiter is the one thing
that clients share: one of them may use up what it lets through for all. -/
namespace GuidedTour.Service

/-- What becomes of a session. -/
inductive Fate where
  | kept
  | stored (t : Tour)
  | closed

namespace Sessions

variable {s other : Sessions} {id i j query : Nat}

def meet (s : Sessions) (id : Nat) : Fate → Sessions
  | .kept => s
  | .stored t => s.replace id t
  | .closed => s.erase id

theorem find?_meet_of_ne (ne : query ≠ id) (fate : Fate) :
    (s.meet id fate).find? query = s.find? query := by
  cases fate <;> simp [meet, find?_replace, find?_erase, ne]

theorem find?_meet_congr (same : s.find? id = other.find? id) (fate : Fate) :
    (s.meet id fate).find? id = (other.meet id fate).find? id := by
  cases fate <;> simp [meet, find?_replace, find?_erase, same]

theorem replace_comm (ne : i ≠ j) (s : Sessions) (t u : Tour) :
    (s.replace i t).replace j u = (s.replace j u).replace i t := by
  simp only [replace, List.map_map, Sessions.mk.injEq, and_true]
  apply List.map_congr_left
  intro e _
  by_cases hi : e.1 = i <;> by_cases hj : e.1 = j <;> simp_all [Ne.symm ne]

theorem erase_replace_comm (s : Sessions) (i j : Nat) (t : Tour) :
    (s.replace i t).erase j = (s.erase j).replace i t := by
  simp only [replace, erase, List.filter_map, Sessions.mk.injEq, and_true]
  congr 1
  apply List.filter_congr
  intro e _
  by_cases h : e.1 = i <;> simp [h]

theorem erase_comm (s : Sessions) (i j : Nat) : (s.erase i).erase j = (s.erase j).erase i := by
  simp only [erase, List.filter_filter, Bool.and_comm]

theorem meet_comm (ne : i ≠ j) (s : Sessions) (fate more : Fate) :
    (s.meet i fate).meet j more = (s.meet j more).meet i fate := by
  cases fate with
  | kept => rfl
  | stored t =>
    cases more with
    | kept => rfl
    | stored u => exact replace_comm ne s t u
    | closed => exact erase_replace_comm s i j t
  | closed =>
    cases more with
    | kept => rfl
    | stored u => exact (erase_replace_comm s j i u).symm
    | closed => exact erase_comm s i j

end Sessions

/-- The answer depends on one session only, and only that session changes. -/
def Confined (id : Nat) (serve : Sessions → α × Sessions) : Prop :=
  ∃ (answer : Option Tour → α) (fate : Option Tour → Fate),
    ∀ s, serve s = (answer (s.find? id), s.meet id (fate (s.find? id)))

namespace Confined

variable {serve also : Sessions → α × Sessions} {s other : Sessions} {id i j query : Nat}

theorem unchanging (id : Nat) (answer : α) : Confined id fun s => (answer, s) :=
  ⟨fun _ => answer, fun _ => .kept, fun _ => rfl⟩

theorem of_found {absent : α} {answer : Tour → α} (fate : Tour → Fate)
    (h : ∀ s, serve s = match s.find? id with
      | none => (absent, s)
      | some t => (answer t, s.meet id (fate t))) : Confined id serve := by
  refine ⟨fun found => (found.map answer).getD absent, fun found => (found.map fate).getD .kept, ?_⟩
  intro s
  rw [h]
  cases s.find? id <;> rfl

theorem map (h : Confined id serve) (f : α → β) :
    Confined id fun s => (f (serve s).1, (serve s).2) := by
  obtain ⟨answer, fate, h⟩ := h
  refine ⟨f ∘ answer, fate, fun s => ?_⟩
  dsimp only
  rw [h]
  rfl

theorem answer_eq (h : Confined id serve) (same : s.find? id = other.find? id) :
    (serve s).1 = (serve other).1 := by
  obtain ⟨answer, fate, h⟩ := h
  rw [h, h, same]

theorem find?_eq (h : Confined id serve) (same : s.find? id = other.find? id) :
    (serve s).2.find? id = (serve other).2.find? id := by
  obtain ⟨answer, fate, h⟩ := h
  rw [h, h, same]
  exact Sessions.find?_meet_congr same _

theorem find?_of_ne (h : Confined id serve) (ne : query ≠ id) :
    (serve s).2.find? query = s.find? query := by
  obtain ⟨answer, fate, h⟩ := h
  rw [h]
  exact Sessions.find?_meet_of_ne ne _

theorem swap (h : Confined i serve) (h' : Confined j also) (ne : i ≠ j) (s : Sessions) :
    (also (serve s).2).2 = (serve (also s).2).2 := by
  obtain ⟨answer, fate, h⟩ := h
  obtain ⟨answer', fate', h'⟩ := h'
  rw [h s, h' s]
  dsimp only
  rw [h, h', Sessions.find?_meet_of_ne ne, Sessions.find?_meet_of_ne ne.symm]
  exact Sessions.meet_comm ne s _ _

end Confined

namespace Host

variable {host : Host} {s other : Sessions} {r q : Request} {c : Command} {id : Nat}

theorem confined_execute (about : c.session? = some id) : Confined id (host.execute · c) := by
  cases c with
  | health | machines | openSession => cases about
  | describe | progress =>
    cases about
    apply Confined.of_found fun _ => .kept
    intro s
    rfl
  | close =>
    cases about
    apply Confined.of_found fun _ => .closed
    intro s
    rfl
  | observe _ route =>
    cases about
    apply Confined.of_found fun t => .stored (t.observe route)
    intro s
    rfl
  | select | tutorial | flow | restart =>
    apply Confined.of_found fun t => .stored (t.step _).2.takeIntents.2
    intro s
    exact host.execute_operation s about rfl fun _ => by simp

/-- Whether a request is refused before it is looked at does not depend on any session. -/
theorem confined_reply (about : r.address? = some id) : Confined id (host.reply · r) := by
  unfold reply
  split
  · exact .unchanging id _
  · split
    · exact .unchanging id _
    · cases asks : r.command with
      | error => exact .unchanging id _
      | ok => exact confined_execute ((Command.session?_eq asks).trans about)

theorem confined_respond (about : r.address? = some id) : Confined id (host.respond · r) := by
  have reply : Confined id (host.reply · r) := confined_reply about
  exact reply.map (host.answer r)

theorem confined_turn (through : Bool) (about : r.address? = some id) :
    Confined id (host.turn through · r) := by
  cases through with
  | false => exact .unchanging id _
  | true => exact confined_respond about

/-- The limiter did not let the call through. -/
def Response.isLimited (response : Response) : Bool := response.status = 429

theorem isLimited_serve (host : Host) (limiter : Limiter) (s : State) (call : Call) :
    (host.serve limiter s call).1.isLimited = !host.lets limiter s call := by
  have limited := host.status_serve limiter s call
  cases through : host.lets limiter s call <;> simp [Response.isLimited, limited, through]

section Clients

variable {Client : Type} [DecidableEq Client]

/-- The calls of one client, in their order. -/
def callsOf (client : Client) (turns : List (Client × Call)) : List Call :=
  (turns.filter (·.1 = client)).map (·.2)

/-- The answers to one client, in their order, out of the answers to everybody. -/
def answersTo (client : Client) (turns : List (Client × Call)) (answers : List Response) :
    List Response :=
  ((turns.zip answers).filter (·.1.1 = client)).map (·.2)

theorem callsOf_cons (client : Client) (turn : Client × Call) (rest : List (Client × Call)) :
    callsOf client (turn :: rest) =
      if turn.1 = client then turn.2 :: callsOf client rest else callsOf client rest := by
  by_cases mine : turn.1 = client <;> simp [callsOf, mine]

theorem answersTo_cons (client : Client) (turn : Client × Call) (rest : List (Client × Call))
    (answer : Response) (later : List Response) :
    answersTo client (turn :: rest) (answer :: later) =
      if turn.1 = client then answer :: answersTo client rest later
      else answersTo client rest later := by
  by_cases mine : turn.1 = client <;> simp [answersTo, mine]

/-- A client among others is answered as on a server that nobody else calls, as long as the two
servers agree about its own session and their limiters about its calls. It may make them there at
other times. -/
theorem served_alone {session : Client → Nat} (own : session.Injective) (client : Client)
    {turns : List (Client × Call)} {calls : List Call} {s other : State}
    (addressed : ∀ turn ∈ turns, turn.2.request.address? = some (session turn.1))
    (same : calls.map (·.request) = (callsOf client turns).map (·.request))
    (agree : s.sessions.find? (session client) = other.sessions.find? (session client)) :
    let together := host.serveAll limiter s (turns.map (·.2))
    let alone := host.serveAll limiter other calls
    (answersTo client turns together.1).map (·.isLimited) = alone.1.map (·.isLimited) →
      answersTo client turns together.1 = alone.1 ∧
        together.2.sessions.find? (session client) =
          alone.2.sessions.find? (session client) := by
  induction turns generalizing s other calls with
  | nil =>
    obtain rfl := List.map_eq_nil_iff.1 same
    exact fun _ => ⟨rfl, agree⟩
  | cons turn rest ih =>
    have later := fun turn mem => addressed turn (List.mem_cons_of_mem _ mem)
    have confined (through : Bool) : Confined (session turn.1)
        (host.turn through · turn.2.request) :=
      confined_turn through (addressed turn (by simp))
    simp only [List.map_cons, serveAll_cons, callsOf_cons, answersTo_cons] at same ⊢
    by_cases mine : turn.1 = client
    -- Both servers take the turn, or only the one that serves everybody.
    · rw [mine] at confined
      rw [if_pos mine, List.map_cons] at same
      obtain ⟨call, more, rfl, request, same⟩ := List.map_eq_cons_iff.1 same
      rw [if_pos mine, List.map_cons, serveAll_cons, List.map_cons, List.cons.injEq,
        isLimited_serve, isLimited_serve, Bool.not_inj_iff, List.cons.injEq, answer_serve,
        answer_serve, request]
      rintro ⟨through, limited⟩
      rw [← through]
      have next : (host.serve limiter s turn.2).2.sessions.find? (session client) =
          (host.serve limiter other call).2.sessions.find? (session client) := by
        rw [sessions_serve, sessions_serve, request, ← through]
        exact (confined _).find?_eq agree
      obtain ⟨answers, left⟩ := ih later same next limited
      exact ⟨⟨(confined _).answer_eq agree, answers⟩, left⟩
    · rw [if_neg mine] at same
      rw [if_neg mine]
      refine ih later same ?_
      rw [sessions_serve, (confined _).find?_of_ne (own.ne (Ne.symm mine)), agree]

end Clients

/-- Requests to different sessions may change places: unless the limiter takes another side, both
are answered the same and leave the same sessions. So whatever order the requests of several
clients come in, each to the session of its own, every client is answered as if it were alone, and
its session is left the same, if only the limiter turns away the same of its requests. A request
that is turned away changes no session, and without a quota none is. -/
theorem sessions_isolated (host : Host) (limiter : Limiter) (s : State) :
    (∀ r q i j, r.address? = some i → q.address? = some j → i ≠ j →
      ∀ early late early' late',
        let first := host.serve limiter s ⟨r, early⟩
        let second := host.serve limiter first.2 ⟨q, late⟩
        let first' := host.serve limiter s ⟨q, early'⟩
        let second' := host.serve limiter first'.2 ⟨r, late'⟩
        first.1.isLimited = second'.1.isLimited → second.1.isLimited = first'.1.isLimited →
          first.1 = second'.1 ∧ second.1 = first'.1 ∧
            second.2.sessions = second'.2.sessions) ∧
    (∀ (Client : Type) [DecidableEq Client] (session : Client → Nat), session.Injective →
      ∀ turns : List (Client × Call),
        (∀ turn ∈ turns, turn.2.request.address? = some (session turn.1)) →
        ∀ client calls, calls.map (·.request) = (callsOf client turns).map (·.request) →
          let together := host.serveAll limiter s (turns.map (·.2))
          let alone := host.serveAll limiter s calls
          (answersTo client turns together.1).map (·.isLimited) = alone.1.map (·.isLimited) →
            answersTo client turns together.1 = alone.1 ∧
              together.2.sessions.find? (session client) =
                alone.2.sessions.find? (session client)) ∧
    ∀ call, (host.serve limiter s call).1.isLimited = true →
      (host.serve limiter s call).2.sessions = s.sessions ∧ host.quota ≠ none := by
  refine ⟨?_, ?_, ?_⟩
  · intro r q i j about about' ne early late early' late' first second first' second' same same'
    simp only [first, second', second, first', isLimited_serve, Bool.not_inj_iff] at same same'
    have one : Confined i (host.turn (host.lets limiter s ⟨r, early⟩) · r) :=
      confined_turn _ about
    have other : Confined j (host.turn (host.lets limiter s ⟨q, early'⟩) · q) :=
      confined_turn _ about'
    have unseen := other.find?_of_ne ne (s := s.sessions)
    have unseen' := one.find?_of_ne ne.symm (s := s.sessions)
    simp only [first, second', second, first', answer_serve, sessions_serve, ← same, same']
    exact ⟨one.answer_eq unseen.symm, other.answer_eq unseen', one.swap other ne _⟩
  · intro Client _ session own turns addressed client calls same
    exact served_alone own client addressed same rfl
  · intro call limited
    rw [isLimited_serve, Bool.not_eq_true'] at limited
    refine ⟨by rw [sessions_serve, limited]; rfl, fun unlimited => ?_⟩
    rw [lets_of_unlimited unlimited] at limited
    cases limited

/-- While one client starts over, another closes its session. -/
theorem sessions_isolated_neighbours :
    let host : Host := ⟨.builtin, [], 2, none, .any, some 3⟩
    let s : State := ⟨(({} : Sessions).insert (.enter .builtin)).insert (.enter .builtin), []⟩
    let restarts : Request := ⟨"POST", "/sessions/1/restart", [], ""⟩
    let closes : Request := ⟨"DELETE", "/sessions/2", [], ""⟩
    let serve (s : State) (r : Request) := host.serve .atOnce s ⟨r, 0⟩
    let turns := [(1, (⟨restarts, 0⟩ : Call)), (2, ⟨closes, 0⟩), (1, ⟨restarts, 0⟩)]
    (serve (serve s restarts).2 closes).2.sessions =
        (serve (serve s closes).2 restarts).2.sessions ∧
      answersTo 1 turns (host.serveAll .atOnce s (turns.map (·.2))).1 =
        (host.serveAll .atOnce s [⟨restarts, 0⟩, ⟨restarts, 0⟩]).1 := by
  intro host s restarts closes serve turns
  have first : restarts.address? = some 1 := by decide
  have second : closes.address? = some 2 := by decide
  obtain ⟨swapped, alone, -⟩ := sessions_isolated host .atOnce s
  refine ⟨(swapped _ _ 1 2 first second (by decide) 0 0 0 0 (by decide +kernel)
    (by decide +kernel)).2.2, ?_⟩
  refine (alone Nat (fun n => n) Function.injective_id turns ?_ 1 _ rfl (by decide +kernel)).1
  simp [turns, first, second]

/-- A client may use up what the limiter lets through, and then another one is turned away. -/
theorem sessions_isolated_crowded :
    let host : Host := ⟨.builtin, [], 2, none, .any, some 1⟩
    let first : Call := { request := ⟨"GET", "/sessions/1", [], ""⟩ }
    let second : Call := { request := ⟨"GET", "/sessions/2", [], ""⟩ }
    first.request.address? = some 1 ∧ second.request.address? = some 2 ∧
      (host.serve .atOnce {} first).1.status = 404 ∧
      (host.serve .atOnce (host.serve .atOnce {} second).2 first).1.status = 429 := by
  decide +kernel

end Host

end GuidedTour.Service
