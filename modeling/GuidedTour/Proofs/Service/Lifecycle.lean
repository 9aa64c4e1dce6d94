import GuidedTour.Proofs.Service.Limiting

/-! The life of a session, read off the answers of a server since its start: its id is the next
number, and it is open from the answer that names this id until it is closed. What the limiter turns
away opens nothing and closes nothing. -/
namespace GuidedTour.Service

namespace Sessions

variable {s : Sessions} {id : Nat} {t : Tour}

def ids (s : Sessions) : List Nat := s.entries.map (·.1)

@[simp] theorem ids_length (s : Sessions) : s.ids.length = s.size := by simp [ids, size]

@[simp] theorem ids_replace : (s.replace id t).ids = s.ids := by
  simp only [ids, replace, List.map_map]
  apply List.map_congr_left
  intro e _
  by_cases h : e.1 = id <;> simp [h]

@[simp] theorem ids_erase : (s.erase id).ids = s.ids.filter (· ≠ id) := by
  simp [ids, erase, List.filter_map, Function.comp_def]

@[simp] theorem ids_insert : (s.insert t).ids = s.ids.filter (· ≠ s.nextId) ++ [s.nextId] := by
  simp [ids, insert, erase, List.filter_map, Function.comp_def]

theorem find?_isSome_iff : (s.find? id).isSome ↔ id ∈ s.ids := by
  rw [find?, List.lookup_isSome_iff]
  simp [ids, eq_comm (a := id)]

end Sessions

namespace Host

variable {host : Host} {limiter : Limiter} {s : Sessions} {r : Request} {c : Command} {id : Nat}

/-- The id of the session that an answer is about. -/
def Response.id? (response : Response) : Option Json :=
  match response.content with
  | .json value => value.fields?.bind (·.lookup "id")
  | _ => none

/-- The id that an answer gives to a new session. -/
def Response.opened? (response : Response) : Option (Option Json) :=
  if response.status = 201 then some response.id? else none

/-- The session that a request closed. -/
def closed? (r : Request) (response : Response) : Option Nat :=
  if r.method = "DELETE" ∧ response.status = 204 then r.address? else none

theorem opened?_of_status {response : Response} (h : response.status ≠ 201) :
    response.opened? = none := by
  rw [Response.opened?, if_neg h]

theorem opened?_opened {authenticated : Bool} {plan : Option (List Feature)} {view : View}
    (asks : r.command = .ok (.openSession authenticated plan)) :
    (host.answer r (.opened view)).opened? = some (some (.nat view.id)) := by
  have method := Command.method_of_writing asks rfl
  have told : (host.answer r (.opened view)).content = .json view.toJson := by
    simp only [answer, Reply.content]
    rw [if_neg]
    rintro head
    simp [head] at method
  rw [Response.opened?, Response.id?, told]
  rfl

theorem closed?_of_status {response : Response} (h : response.status ≠ 204) :
    closed? r response = none := by
  rw [closed?, if_neg fun both => h both.2]

theorem closed?_closed (asks : r.command = .ok (.close id)) :
    closed? r (host.answer r .done) = some id := by
  rw [closed?, if_pos ⟨(Command.method_delete_iff asks).2 ⟨id, rfl⟩, rfl⟩,
    ← Command.session?_eq asks]
  rfl

theorem closed?_observed {route : Route} (asks : r.command = .ok (.observe id route)) :
    closed? r (host.answer r .done) = none := by
  rw [closed?, if_neg]
  rintro ⟨method, -⟩
  obtain ⟨other, same⟩ := (Command.method_delete_iff asks).1 method
  cases same

/-- The sessions of the first `count` ids that are not closed. -/
def openIds (count : Nat) (closed : List Nat) : List Nat :=
  (List.range' 1 count).filter (· ∉ closed)

theorem mem_openIds {count : Nat} {closed : List Nat} :
    id ∈ openIds count closed ↔ (1 ≤ id ∧ id ≤ count) ∧ id ∉ closed := by
  have bound : id < 1 + count ↔ id ≤ count := by omega
  simp only [openIds, List.mem_filter, List.mem_range'_1, decide_eq_true_eq, bound]

theorem openIds_open {count : Nat} {closed : List Nat} (fresh : count + 1 ∉ closed) :
    openIds (count + 1) closed = openIds count closed ++ [count + 1] := by
  simp [openIds, List.range'_concat, List.filter_append, Nat.add_comm 1, fresh]

theorem openIds_close (count : Nat) (closed : List Nat) (id : Nat) :
    openIds count (closed ++ [id]) = (openIds count closed).filter (· ≠ id) := by
  simp [openIds, List.filter_filter, Bool.and_comm]

/-- What a server that opened and closed these sessions holds. -/
structure Holds (host : Host) (s : Sessions) (opened : List (Option Json))
    (closed : List Nat) : Prop where
  numbered : opened = (List.range' 1 opened.length).map (some <| .nat ·)
  next : s.nextId = opened.length + 1
  ids : s.ids = openIds opened.length closed
  past : ∀ id ∈ closed, id ≤ opened.length
  room : s.size ≤ host.limit

namespace Holds

variable {opened : List (Option Json)} {closed : List Nat} {t : Tour}

theorem fresh (host : Host) : host.Holds {} [] [] where
  numbered := rfl
  next := rfl
  ids := rfl
  past := by simp
  room := Nat.zero_le _

theorem insert (h : host.Holds s opened closed) (room : s.size < host.limit)
    (few : opened.length + 1 < maxId) :
    host.Holds (s.insert t) (opened ++ [some (.nat s.nextId)]) closed := by
  have unused : opened.length + 1 ∉ closed := fun mem => by
    have := h.past _ mem
    omega
  have kept : s.ids.filter (· ≠ s.nextId) = s.ids := by
    apply List.filter_eq_self.2
    intro id mem
    rw [h.ids, mem_openIds] at mem
    rw [h.next, decide_eq_true_eq]
    omega
  constructor
  · rw [List.length_append, List.length_singleton, List.range'_concat, List.map_append,
      ← h.numbered, h.next]
    simp [Nat.add_comm]
  · simp [Sessions.insert, nextAfter, h.next, few]
  · rw [Sessions.ids_insert, kept, h.ids, h.next, List.length_append, List.length_singleton,
      openIds_open unused]
  · intro id mem
    have := h.past id mem
    simp only [List.length_append, List.length_singleton]
    omega
  · rw [← Sessions.ids_length, Sessions.ids_insert, kept, List.length_append, Sessions.ids_length]
    exact room

theorem erase (h : host.Holds s opened closed) (found : id ∈ s.ids) :
    host.Holds (s.erase id) opened (closed ++ [id]) where
  numbered := h.numbered
  next := h.next
  ids := by rw [Sessions.ids_erase, h.ids, openIds_close]
  past := by
    rw [h.ids, mem_openIds] at found
    intro other mem
    obtain mem | rfl := by simpa using mem
    · exact h.past other mem
    · exact found.1.2
  room := by
    rw [← Sessions.ids_length, Sessions.ids_erase]
    apply Nat.le_trans (List.length_filter_le _ _)
    simpa using h.room

theorem replace (h : host.Holds s opened closed) : host.Holds (s.replace id t) opened closed where
  numbered := h.numbered
  next := h.next
  ids := by rw [Sessions.ids_replace, h.ids]
  past := h.past
  room := by
    rw [← Sessions.ids_length, Sessions.ids_replace]
    simpa using h.room

theorem effect {reply : Reply} {next : Sessions} (h : host.Holds s opened closed)
    (asks : r.command = .ok c) (effect : host.Effect s c reply next)
    (few : (opened ++ (host.answer r reply).opened?.toList).length < maxId) :
    host.Holds next (opened ++ (host.answer r reply).opened?.toList)
      (closed ++ (closed? r (host.answer r reply)).toList) := by
  cases effect with
  | opened room new =>
    rw [opened?_opened asks] at few ⊢
    rw [closed?_of_status (by simp [answer, Reply.status])]
    simpa [View.of] using h.insert room (by simpa using few)
  | closed found =>
    rw [opened?_of_status (by simp [answer, Reply.status]), closed?_closed asks]
    simpa using h.erase (Sessions.find?_isSome_iff.1 (by simp [found]))
  | operated =>
    rw [opened?_of_status (by simp [answer]), closed?_of_status (by simp [answer])]
    simpa using h.replace
  | observed =>
    rw [opened?_of_status (by simp [answer, Reply.status]), closed?_observed asks]
    simpa using h.replace

theorem respond (h : host.Holds s opened closed) (r : Request)
    (few : (opened ++ (host.respond s r).1.opened?.toList).length < maxId) :
    host.Holds (host.respond s r).2 (opened ++ (host.respond s r).1.opened?.toList)
      (closed ++ (closed? r (host.respond s r).1).toList) := by
  rw [respond_eq] at few ⊢
  obtain ⟨same, told⟩ | ⟨c, asks, -, effect⟩ := host.reply_cases s r
  · have status : (host.reply s r).1.status = 200 ∨ 400 ≤ (host.reply s r).1.status := by
      obtain ⟨refusal, refused⟩ | ⟨-, told⟩ := told
      · rw [refused]
        exact .inr refusal.le_status
      · exact .inl told
    dsimp only
    rw [opened?_of_status (by dsimp only [answer]; omega),
      closed?_of_status (by dsimp only [answer]; omega), same]
    simpa using h
  · exact h.effect asks effect few

theorem serve {s : State} (h : host.Holds s.sessions opened closed) (call : Call)
    (few : (opened ++ (host.serve limiter s call).1.opened?.toList).length < maxId) :
    host.Holds (host.serve limiter s call).2.sessions
      (opened ++ (host.serve limiter s call).1.opened?.toList)
      (closed ++ (closed? call.request (host.serve limiter s call).1).toList) := by
  rw [answer_serve] at few ⊢
  rw [sessions_serve]
  cases through : host.lets limiter s call with
  | true =>
    rw [through] at few
    exact h.respond call.request few
  | false =>
    rw [turn_false, opened?_of_status (by simp [status_answer_limited]),
      closed?_of_status (by simp [status_answer_limited])]
    simpa using h

theorem serveAll {s : State} (h : host.Holds s.sessions opened closed) (calls : List Call)
    (few : (opened ++ (host.serveAll limiter s calls).1.filterMap (·.opened?)).length < maxId) :
    host.Holds (host.serveAll limiter s calls).2.sessions
      (opened ++ (host.serveAll limiter s calls).1.filterMap (·.opened?))
      (closed ++ (calls.zip (host.serveAll limiter s calls).1).filterMap
        fun turn => closed? turn.1.request turn.2) := by
  induction calls generalizing s opened closed with
  | nil => simpa using h
  | cons call rest ih =>
    simp only [serveAll_cons, List.zip_cons_cons, filterMap_cons_toList,
      ← List.append_assoc] at few ⊢
    -- The count only grows, so it is small enough after the first answer.
    apply ih (h.serve call _) few
    apply Nat.lt_of_le_of_lt _ few
    simp

end Holds

theorem nextId_respond (known : s.nextId ≤ maxId) (r : Request) :
    (host.respond s r).2.nextId ≤ maxId := by
  rw [respond_eq]
  obtain ⟨same, -⟩ | ⟨c, -, -, effect⟩ := host.reply_cases s r
  · dsimp only
    rw [same]
    exact known
  · generalize (host.reply s r).1 = reply, (host.reply s r).2 = next at effect
    cases effect with
    | opened =>
      change nextAfter s.nextId ≤ maxId
      unfold nextAfter
      split <;> omega
    | closed | operated | observed => exact known

theorem nextId_respondAll (known : s.nextId ≤ maxId) (rs : List Request) :
    (host.respondAll s rs).2.nextId ≤ maxId := by
  induction rs generalizing s with
  | nil => exact known
  | cons r rest ih => exact ih (nextId_respond known r)

theorem status_describe (host : Host) (s : Sessions) (id : Nat) :
    (host.execute s (.describe id)).1.status = if id ∈ s.ids then 200 else 404 := by
  simp only [execute, ← Sessions.find?_isSome_iff]
  cases s.find? id <;> rfl

theorem status_openSession {authenticated : Bool} {plan : Option (List Feature)}
    (room : s.size ≤ host.limit) :
    (host.execute s (.openSession authenticated plan)).1.status =
      if s.size = host.limit then 503 else 201 := by
  dsimp only [execute]
  by_cases full : s.size = host.limit
  · rw [if_pos full, if_pos (Nat.le_of_eq full.symm)]
    rfl
  · rw [if_neg full, if_neg (by omega)]
    rfl

/-- The server counts the sessions from 1 on, without a gap, and a creation that is refused or
turned away takes no number. Whoever gets past the limiter and the key finds a session exactly while
it is open, and never again. There are never more of them than the limit, and exactly when there are
as many, no other is opened. -/
theorem sessions_numbered (host : Host) (limiter : Limiter) (calls : List Call)
    (few : ((host.serveAll limiter {} calls).1.filterMap (·.opened?)).length < maxId) :
    let answers := (host.serveAll limiter {} calls).1
    let s := (host.serveAll limiter {} calls).2
    let opened := answers.filterMap (·.opened?)
    let closed := (calls.zip answers).filterMap fun turn => closed? turn.1.request turn.2
    let ids := openIds opened.length closed
    opened = (List.range' 1 opened.length).map (some <| .nat ·) ∧
    ids.length ≤ host.limit ∧
    ∀ call,
      let answer := (host.serve limiter s call).1
      (host.lets limiter s call = false →
        answer.status = 429 ∧ (host.serve limiter s call).2.sessions = s.sessions) ∧
      (host.lets limiter s call = true → host.isAdmitted call.request = true →
        (∀ id, call.request.command = .ok (.describe id) →
          answer.status = if id ∈ ids then 200 else 404) ∧
        (∀ authenticated plan, call.request.command = .ok (.openSession authenticated plan) →
          answer.status = if ids.length = host.limit then 503 else 201)) := by
  have held := (Holds.fresh host).serveAll (s := {}) calls (by simpa using few)
  simp only [List.nil_append] at held
  have size := held.ids ▸ Sessions.ids_length _
  refine ⟨held.numbered, size ▸ held.room, fun call => ⟨?_, fun through admitted => ⟨?_, ?_⟩⟩⟩
  · intro away
    rw [sessions_serve, answer_serve, away]
    exact ⟨rfl, rfl⟩
  · intro id asks
    simp only [answer_serve, through, turn_true, respond_eq, reply_admitted admitted asks, answer,
      status_describe, held.ids]
  · intro authenticated plan asks
    simp only [answer_serve, through, turn_true, respond_eq, reply_admitted admitted asks, answer,
      status_openSession held.room, size]

/-- Two sessions are opened and the first one is closed. -/
theorem sessions_numbered_closed :
    let host : Host := ⟨.builtin, [], 2, none, .any, some 4⟩
    let opens : Request := ⟨"POST", "/sessions", [("content-type", "application/json")], "\x7b\x7d"⟩
    let calls : List Call := [⟨opens, 0⟩, ⟨opens, 0⟩, ⟨⟨"DELETE", "/sessions/1", [], ""⟩, 0⟩]
    let run := host.serveAll .atOnce {} calls
    let status (r : Request) := (host.serve .atOnce run.2 ⟨r, 0⟩).1.status
    run.1.filterMap (·.opened?) = [some (.nat 1), some (.nat 2)] ∧
      status ⟨"GET", "/sessions/1", [], ""⟩ = 404 ∧ status ⟨"GET", "/sessions/2", [], ""⟩ = 200 ∧
      status opens = 201 := by
  intro host opens calls run status
  have count : (run.1.filterMap (·.opened?)).length = 2 := by decide +kernel
  have closed : (calls.zip run.1).filterMap (fun turn => closed? turn.1.request turn.2) = [1] := by
    decide +kernel
  have through (r : Request) : host.lets .atOnce run.2 ⟨r, 0⟩ = true := by
    have asked : run.2.asked.length = 3 := by decide +kernel
    unfold lets quotaFor? Limiter.atOnce
    rw [asked]
    split <;> rfl
  obtain ⟨numbered, -, found⟩ := sessions_numbered host .atOnce calls (by rw [count]; decide)
  rw [count] at numbered
  rw [count, closed] at found
  have first := ((found ⟨⟨"GET", "/sessions/1", [], ""⟩, 0⟩).2 (through _) rfl).1 1
    (eq_ok_of_toOption (by decide))
  have second := ((found ⟨⟨"GET", "/sessions/2", [], ""⟩, 0⟩).2 (through _) rfl).1 2
    (eq_ok_of_toOption (by decide))
  have third := ((found ⟨opens, 0⟩).2 (through _) rfl).2 true none
    (eq_ok_of_toOption (by decide +kernel))
  rw [if_neg (by decide)] at first third
  rw [if_pos (by decide)] at second
  exact ⟨numbered, first, second, third⟩

/-- Nobody opened a session, but who asks for it a second time is not told so. -/
theorem sessions_numbered_crowded :
    let host : Host := ⟨.builtin, [], 2, none, .any, some 1⟩
    let call : Call := { request := ⟨"GET", "/sessions/1", [], ""⟩ }
    host.isAdmitted call.request = true ∧
      (host.serveAll .atOnce {} [call, call]).1.map (·.status) = [404, 429] := by
  decide +kernel

end Host

end GuidedTour.Service
