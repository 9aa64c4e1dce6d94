import GuidedTour.Proofs.Service.Effects
import GuidedTour.Proofs.Service.Receiving
import GuidedTour.Proofs.Tour.Queueing

/-! Intents are handed over once. No session holds any back between two requests, so an answer
carries what its own request queued and nothing else, and a client that keeps its answers has
everything that its session ever queued. -/
namespace GuidedTour.Service

namespace Sessions

variable {s : Sessions} {id : Nat} {t : Tour}

/-- Nothing waits in any session. -/
def Drained (s : Sessions) : Prop := ∀ e ∈ s.entries, e.2.intents = []

theorem Drained.found (h : s.Drained) (hf : s.find? id = some t) : t.intents = [] :=
  Each.found (P := (·.intents = [])) h hf

end Sessions

namespace Host

variable {host : Host} {s : Sessions} {r : Request} {c : Command} {id : Nat} {t : Tour}

theorem keeps_drained (host : Host) : host.Keeps (·.intents = []) where
  opened _ _ := rfl
  operated _ _ := rfl
  observed h _ := h

theorem drained_respond (h : s.Drained) (r : Request) : (host.respond s r).2.Drained :=
  host.keeps_drained.respond h r

theorem drained_respondAll (h : s.Drained) (rs : List Request) :
    (host.respondAll s rs).2.Drained :=
  host.keeps_drained.respondAll h rs

theorem welcome_eq (host : Host) (plan : List Feature) :
    host.welcome true plan = (Tour.enter host.registry).run [.restart, .select plan] := by
  cases plan with
  | nil => exact (Tour.enter host.registry).unplanned_restart.select_nil.symm
  | cons => rfl

/-- What a new session with a plan holds is what starting over and selecting the plan queue. -/
theorem intents_welcome (host : Host) (plan : List Feature) :
    (host.welcome true plan).intents =
      (Tour.enter host.registry).newsOf [.restart, .select plan] := by
  rw [welcome_eq, Tour.run_cons, Tour.intents_run _ (by simp), Tour.newsOf_cons]
  exact congrArg (· ++ _) (Tour.enter host.registry).intents_restart

/-- The intents that a command queues and its answer has to carry, if it has to carry any. A session
for an authenticated operator is started over, which drops what its entry queued; an empty plan
queues nothing. -/
def due (host : Host) (s : Sessions) (c : Command) : Option (List Action) :=
  match c with
  | .openSession false _ => some (Tour.enter host.registry).intents
  | .openSession true plan =>
    some ((Tour.enter host.registry).newsOf [.restart, .select (plan.getD host.plan)])
  | .describe _ => some []
  | .health | .machines | .close _ | .observe .. | .progress _ => none
  | .select .. | .tutorial .. | .flow .. | .restart _ => do
    let t ← s.find? (← c.session?)
    return t.news (← c.operation?)

theorem told_due (drained : t.intents = []) (op : Operation) :
    (Reply.told id (t.step op)).view?.map (·.intents) = some (t.news op) := by
  rw [Tour.news_of_drained drained]
  unfold Reply.told
  cases (t.step op).1 <;> rfl

/-- A command is refused, or its reply tells what is due. -/
theorem execute_due (host : Host) (drained : s.Drained) (c : Command) :
    (∃ refusal, (host.execute s c).1 = .refused refusal) ∨
      (host.execute s c).1.view?.map (·.intents) = host.due s c := by
  cases c with
  | health | machines => exact .inr rfl
  | openSession authenticated plan =>
    dsimp only [execute]
    split
    · exact .inl ⟨_, rfl⟩
    · cases authenticated with
      | false => exact .inr rfl
      | true => exact .inr (congrArg some (host.intents_welcome _))
  | describe id =>
    dsimp only [execute]
    cases found : s.find? id with
    | none => exact .inl ⟨_, rfl⟩
    | some t => exact .inr (congrArg some (drained.found found))
  | close id | observe id _ | progress id =>
    dsimp only [execute]
    cases s.find? id with
    | none => exact .inl ⟨_, rfl⟩
    | some t => exact .inr rfl
  | select id | tutorial id | flow id | restart id =>
    rw [execute_operation host s rfl rfl fun _ => by simp]
    cases found : s.find? id with
    | none => exact .inl ⟨_, rfl⟩
    | some t =>
      right
      simp only [told_due (drained.found found), due, Command.session?, Command.operation?]
      rw [Option.bind_eq_bind, Option.bind_some, found]
      rfl

theorem refused_of_status (host : Host) (s : Sessions) (r : Request)
    (fails : 400 ≤ (host.reply s r).1.status) :
    ∃ refusal, (host.reply s r).1 = .refused refusal := by
  obtain ⟨-, refused | ⟨-, told⟩⟩ | ⟨c, -, -, effect⟩ := host.reply_cases s r
  · exact refused
  · omega
  · have := effect.status_lt
    omega

/-- What a client is handed with an answer. -/
def Response.handed (response : Response) : List Action := response.content.intents?.getD []

/-- The operation that a request performed, as its answer tells. -/
def performed? (r : Request) (response : Response) : Option Operation :=
  if response.status < 400 then r.command.toOption.bind (·.operation?) else none

/-- A command that does not close its session performs its operation in it, if it has one, and
tells what the operation queued. -/
theorem execute_about (host : Host) (about : c.session? = some id) (keeps : c ≠ .close id)
    (drained : t.intents = []) (found : s.find? id = some t) :
    (host.execute s c).1.status < 400 ∧
      ((host.execute s c).1.view?.map (·.intents)).getD [] = t.newsOf c.operation?.toList ∧
      (host.execute s c).2.find? id = some (t.run c.operation?.toList).takeIntents.2 := by
  obtain ⟨registry, session, intents⟩ := t
  obtain rfl : intents = [] := drained
  cases c with
  | health | machines | openSession => cases about
  | close =>
    cases about
    exact absurd rfl keeps
  | describe | progress =>
    cases about
    dsimp only [execute]
    rw [found]
    exact ⟨(by decide : 200 < 400), rfl, found⟩
  | observe _ route =>
    cases about
    dsimp only [execute]
    rw [found]
    refine ⟨(by decide : 204 < 400), rfl, ?_⟩
    rw [Sessions.find?_replace, if_pos rfl, found]
    rfl
  | select | tutorial | flow | restart =>
    cases about
    rw [execute_operation host s rfl rfl fun _ => by simp, found]
    refine ⟨by simp, ?_, ?_⟩
    · rw [told_due rfl]
      exact (List.append_nil _).symm
    · rw [Sessions.find?_replace, if_pos rfl, found]
      rfl

theorem operation?_of_head (asks : r.command = .ok c) (head : r.method = "HEAD") :
    c.operation? = none := by
  cases reading : c.isReading with
  | true => cases c <;> first | rfl | cases reading
  | false =>
    have := Command.method_of_writing asks reading
    simp [head] at this

theorem performed?_of_fails {response : Response}
    (fails : ∀ c, r.command = .ok c → 400 ≤ response.status) : performed? r response = none := by
  unfold performed?
  split
  · rename_i succeeds
    cases asks : r.command with
    | error refusal => rfl
    | ok c => exact absurd succeeds (Nat.not_lt.2 (fails c asks))
  · rfl

/-- A request is executed, or it changes nothing and is told nothing, and fails if it asked for
anything. -/
theorem reply_executes (host : Host) (s : Sessions) (r : Request) :
    (∃ c, r.command = .ok c ∧ host.reply s r = host.execute s c) ∨
      (host.reply s r).2 = s ∧ (host.reply s r).1.view? = none ∧
        ∀ c, r.command = .ok c → 400 ≤ (host.reply s r).1.status := by
  unfold reply
  split
  · rename_i options
    exact .inr ⟨rfl, rfl, fun c asks => absurd options (Command.method_ne_options asks)⟩
  · split
    · exact .inr ⟨rfl, rfl, fun _ _ => Refusal.unauthorized.le_status⟩
    · cases r.command with
      | error refusal => exact .inr ⟨rfl, rfl, fun _ asks => by cases asks⟩
      | ok c => exact .inl ⟨c, rfl, rfl⟩

theorem handed_answer (host : Host) (r : Request) (reply : Reply) :
    (host.answer r reply).handed =
      if r.method = "HEAD" then [] else (reply.view?.map (·.intents)).getD [] := by
  rw [Response.handed, intents?_answer]
  split <;> rfl

/-- What a request to a session queues is handed over with its answer. -/
theorem handed_respond (host : Host) (about : r.address? = some id) (keeps : r.method ≠ "DELETE")
    (drained : s.Drained) (found : s.find? id = some t) :
    let ops := (performed? r (host.respond s r).1).toList
    (host.respond s r).1.handed = t.newsOf ops ∧
      (host.respond s r).2.find? id = some (t.run ops).takeIntents.2 := by
  have waits := drained.found found
  rw [respond_eq]
  dsimp only
  rw [handed_answer]
  obtain ⟨c, asks, executed⟩ | ⟨same, untold, fails⟩ := host.reply_executes s r
  · have closes : c ≠ .close id := fun closes =>
      keeps ((Command.method_delete_iff asks).2 ⟨id, closes⟩)
    obtain ⟨succeeds, told, next⟩ :=
      host.execute_about ((Command.session?_eq asks).trans about) closes waits found
    have performed : performed? r (host.answer r (host.execute s c).1) = c.operation? :=
      (if_pos succeeds).trans (by rw [asks]; rfl)
    rw [executed, performed]
    refine ⟨?_, next⟩
    split
    · rename_i head
      rw [operation?_of_head asks head]
      rfl
    · rw [told]
  · rw [same, untold, performed?_of_fails fails, found]
    exact ⟨ite_self _, congrArg some (Tour.takeIntents_of_drained waits).symm⟩

/-- Whoever follows a session is handed everything that it queues. -/
theorem handed_respondAll (drained : s.Drained) (found : s.find? id = some t) (rs : List Request)
    (own : ∀ r ∈ rs, r.address? = some id ∧ r.method ≠ "DELETE") :
    let ops := (rs.zip (host.respondAll s rs).1).filterMap fun turn => performed? turn.1 turn.2
    (host.respondAll s rs).1.flatMap (·.handed) = t.newsOf ops ∧
      (host.respondAll s rs).2.find? id = some (t.run ops).takeIntents.2 := by
  induction rs generalizing s t with
  | nil =>
    have waits := drained.found found
    exact ⟨rfl, found.trans (congrArg some (Tour.takeIntents_of_drained waits).symm)⟩
  | cons r rest ih =>
    obtain ⟨about, keeps⟩ := own r List.mem_cons_self
    obtain ⟨handed, next⟩ := host.handed_respond about keeps drained found
    obtain ⟨later, last⟩ := ih (drained_respond drained r) next
      fun r mem => own r (List.mem_cons_of_mem _ mem)
    rw [Tour.newsOf_takeIntents] at later
    rw [Tour.run_takeIntents, ← Tour.run_append] at last
    simp only [respondAll_cons, List.zip_cons_cons, List.flatMap_cons, filterMap_cons_toList]
    refine ⟨?_, last⟩
    rw [handed, later, Tour.newsOf_append]

/-- The reply to a command that succeeds tells what is due. -/
theorem reply_due (host : Host) (drained : s.Drained) (asks : r.command = .ok c)
    (succeeds : (host.reply s r).1.status < 400) :
    (host.reply s r).1.view?.map (·.intents) = host.due s c := by
  obtain ⟨other, same, executed⟩ | ⟨-, -, fails⟩ := host.reply_executes s r
  · obtain rfl : other = c := Except.ok.inj (same.symm.trans asks)
    obtain ⟨refusal, refused⟩ | told := host.execute_due drained other
    · have fails : 400 ≤ (host.reply s r).1.status := executed ▸ refused ▸ refusal.le_status
      exact absurd succeeds (Nat.not_lt.2 fails)
    · rw [executed, told]
  · exact absurd succeeds (Nat.not_lt.2 (fails c asks))

/-- Intents are handed over exactly once. In every state that a server reaches, nothing waits in
any session. In the answer to a command that succeeds a client reads just what its operations
queued, in this order, and for a new session what is left by its last start; the description of a
session carries no intents, and no other answer has a place for them. So the answers to all that is
asked of a session add up to all that its operations ever queue. -/
theorem intents_handed_over (host : Host) (earlier : List Request) :
    let s := (host.respondAll {} earlier).2
    (∀ e ∈ s.entries, e.2.intents = []) ∧
    (∀ r c, r.command = .ok c → (host.respond s r).1.status < 400 → r.method ≠ "HEAD" →
      (host.respond s r).1.content.intents? = host.due s c) ∧
    (∀ r, (∀ c, r.command = .ok c → (host.respond s r).1.status < 400 →
        r.method = "HEAD" ∨ host.due s c = none) →
      (host.respond s r).1.content.place? = none) ∧
    ∀ id t rs, s.find? id = some t → (∀ r ∈ rs, r.address? = some id ∧ r.method ≠ "DELETE") →
      let served := host.respondAll s rs
      let ops := (rs.zip served.1).filterMap fun turn => performed? turn.1 turn.2
      served.1.flatMap (·.handed) = t.newsOf ops ∧
        served.2.find? id = some (t.run ops).takeIntents.2 := by
  intro s
  have drained : s.Drained := drained_respondAll (by simp [Sessions.Drained]) earlier
  refine ⟨drained, ?_, ?_, fun id t rs found own => handed_respondAll drained found rs own⟩
  · intro r c asks succeeds told
    rw [respond_eq, intents?_answer, if_neg told]
    exact host.reply_due drained asks succeeds
  · intro r silent
    rw [respond_eq, place?_answer, Reply.place?_content, ite_eq_left_iff, Option.map_eq_none_iff]
    intro told
    obtain ⟨c, asks, executed⟩ | ⟨-, untold, -⟩ := host.reply_executes s r
    · obtain succeeds | fails := Nat.lt_or_ge (host.reply s r).1.status 400
      · have undue := (silent c asks succeeds).resolve_left told
        rw [← host.reply_due drained asks succeeds, Option.map_eq_none_iff] at undue
        exact undue
      · obtain ⟨refusal, refused⟩ := host.refused_of_status s r fails
        rw [refused]
        rfl
    · exact untold

/-- A session is opened, started over and told of a route, and then it is described. -/
theorem intents_handed_over_restarted :
    let host : Host := ⟨.builtin, [.policies], 1, none, .any, none⟩
    let json := [("content-type", "application/json")]
    let opens : Request := ⟨"POST", "/sessions", json, "\x7b\x7d"⟩
    let route := "\x7b\"route\":\"vault.cluster\"\x7d"
    let rs : List Request := [⟨"POST", "/sessions/1/restart", [], ""⟩,
      ⟨"POST", "/sessions/1/route", json, route⟩, ⟨"GET", "/sessions/1", [], ""⟩]
    let s := (host.respond {} opens).2
    (host.respond {} opens).1.content.intents? =
      some ((Tour.enter .builtin).newsOf [.restart, .select [.policies]]) ∧
    (host.respond {} rs[0]).1.content.place? = none ∧
    ∃ t, s.find? 1 = some t ∧ (host.respondAll s rs).1.flatMap (·.handed) =
      t.newsOf [.restart, .observe ⟨"vault.cluster", []⟩] := by
  intro host json opens route rs s
  have asks : opens.command = .ok (.openSession true none) :=
    eq_ok_of_toOption (by decide +kernel)
  obtain ⟨-, tells, silent, -⟩ := intents_handed_over host []
  obtain ⟨-, -, -, follows⟩ := intents_handed_over host [opens]
  obtain ⟨t, found⟩ : ∃ t, s.find? 1 = some t := Option.isSome_iff_exists.1 (by decide +kernel)
  have performed : (rs.zip (host.respondAll s rs).1).filterMap
      (fun turn => performed? turn.1 turn.2) = [.restart, .observe ⟨"vault.cluster", []⟩] := by
    decide +kernel
  have handed := (follows 1 t rs found (by decide +kernel)).1
  refine ⟨tells opens _ asks (by decide +kernel) (by decide), silent rs[0] ?_, t, found, ?_⟩
  · intro c _ succeeds
    exact absurd succeeds (by decide +kernel)
  · exact handed.trans (by rw [← performed]; rfl)

end Host

end GuidedTour.Service
