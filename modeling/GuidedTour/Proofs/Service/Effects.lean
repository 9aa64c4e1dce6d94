import GuidedTour.Proofs.Service.Asking

/-! What requests change. A request leaves the sessions alone, or it is a command that takes
effect: it opens a session, closes one, or performs an operation in one. A request that is
refused and one that only reads are of the first kind. -/
namespace GuidedTour.Service

/-- The operation that a command performs in its session. -/
def Command.operation? : Command → Option Operation
  | select _ features => some (.select features)
  | tutorial _ state event => some (.tutorial state event)
  | flow _ state event params => some (.flow state event params)
  | observe _ route => some (.observe route)
  | restart _ => some .restart
  | health | machines | openSession .. | describe _ | close _ | progress _ => none

/-- The reply that tells what came of an operation, and hands its intents over. -/
def Reply.told (id : Nat) (result : Option Outcome × Tour) : Reply :=
  let view := View.of id result.2.takeIntents.2 result.2.takeIntents.1
  match result.1 with
  | some outcome => .moved outcome view
  | none => .described view

theorem Refusal.le_status (refusal : Refusal) : 400 ≤ refusal.status := by
  cases refusal with
  | unreadable fault => cases fault <;> simp [status]
  | _ => simp [status]

@[simp] theorem Reply.status_told (id : Nat) (result : Option Outcome × Tour) :
    (told id result).status = 200 := by
  unfold told
  cases result.1 <;> rfl

namespace Sessions

variable {P : Tour → Prop} {s : Sessions} {id : Nat} {t : Tour}

/-- It holds in every open session. -/
def Each (P : Tour → Prop) (s : Sessions) : Prop := ∀ e ∈ s.entries, P e.2

theorem Each.found (h : s.Each P) (hf : s.find? id = some t) : P t := by
  obtain ⟨before, after, split, -⟩ := List.lookup_eq_some_iff.1 hf
  exact h (id, t) (by simp [split])

theorem Each.replace (h : s.Each P) (ht : P t) : (s.replace id t).Each P := by
  intro e mem
  obtain ⟨old, kept, rfl⟩ := List.mem_map.1 mem
  split
  · exact ht
  · exact h old kept

theorem Each.erase (h : s.Each P) (id : Nat) : (s.erase id).Each P :=
  fun e mem => h e (List.mem_filter.1 mem).1

theorem Each.insert (h : s.Each P) (ht : P t) : (s.insert t).Each P := by
  intro e mem
  obtain old | new := List.mem_append.1 mem
  · exact h.erase s.nextId e old
  · rw [List.mem_singleton.1 new]
    exact ht

end Sessions

/-- Some request asks for the operation. -/
def Requested (op : Operation) : Prop :=
  ∃ (r : Request) (c : Command), r.command = .ok c ∧ c.operation? = some op

namespace Host

variable {host : Host} {s : Sessions} {r : Request} {c : Command}

/-- A command that takes effect, with its reply and the sessions after it. -/
inductive Effect (host : Host) (s : Sessions) : Command → Reply → Sessions → Prop where
  | opened {authenticated plan t} (room : s.size < host.limit)
    (new : t = host.welcome authenticated (plan.getD host.plan)) :
    Effect host s (.openSession authenticated plan)
      (.opened (.of s.nextId t.takeIntents.2 t.takeIntents.1)) (s.insert t.takeIntents.2)
  | closed {id t} (found : s.find? id = some t) : Effect host s (.close id) .done (s.erase id)
  | operated {c id op t} (about : c.session? = some id) (asked : c.operation? = some op)
    (found : s.find? id = some t) :
    Effect host s c (.told id (t.step op)) (s.replace id (t.step op).2.takeIntents.2)
  | observed {id t route} (found : s.find? id = some t) :
    Effect host s (.observe id route) .done (s.replace id (t.observe route))

theorem Effect.status_lt {reply : Reply} {next : Sessions} (h : host.Effect s c reply next) :
    reply.status < 400 := by
  cases h with
  | operated => simp
  | opened | closed | observed => simp [Reply.status]

/-- The sessions stay as they are, and the reply is a refusal. -/
def Refused (s : Sessions) (result : Reply × Sessions) : Prop :=
  result.2 = s ∧ ∃ refusal, result.1 = .refused refusal

theorem refused (s : Sessions) (refusal : Refusal) : Refused s (.refused refusal, s) :=
  ⟨rfl, refusal, rfl⟩

/-- A command that performs an operation hands its intents over, but for the observation of a
route. -/
theorem execute_operation (host : Host) (s : Sessions) {id : Nat} {op : Operation}
    (about : c.session? = some id) (asked : c.operation? = some op)
    (performs : ∀ route, op ≠ .observe route) :
    host.execute s c = match s.find? id with
      | none => (.refused (.noSession id), s)
      | some t => (.told id (t.step op), s.replace id (t.step op).2.takeIntents.2) := by
  cases c with
  | health | machines | openSession | describe | close | progress => cases asked
  | observe _ route =>
    cases asked
    exact absurd rfl (performs route)
  | select | restart =>
    cases about
    cases asked
    dsimp only [execute, change]
    cases s.find? id <;> rfl
  | tutorial _ state | flow _ state =>
    cases about
    cases asked
    dsimp only [execute, change]
    cases s.find? id <;> cases state <;> rfl

theorem execute_reading (host : Host) (s : Sessions) (reads : c.isReading = true) :
    (host.execute s c).2 = s ∧ ((∃ refusal, (host.execute s c).1 = .refused refusal) ∨
      (host.execute s c).1.status = 200) := by
  cases c with
  | health | machines => exact ⟨rfl, .inr rfl⟩
  | describe id | progress id =>
    dsimp only [execute]
    cases s.find? id with
    | none => exact ⟨rfl, .inl ⟨_, rfl⟩⟩
    | some t => exact ⟨rfl, .inr rfl⟩
  | _ => cases reads

theorem execute_performing (host : Host) (s : Sessions) {id : Nat} {op : Operation}
    (about : c.session? = some id) (asked : c.operation? = some op)
    (performs : ∀ route, op ≠ .observe route) :
    Refused s (host.execute s c) ∨
      host.Effect s c (host.execute s c).1 (host.execute s c).2 := by
  rw [execute_operation host s about asked performs]
  cases found : s.find? id with
  | none => exact .inl (refused s _)
  | some t => exact .inr (.operated about asked found)

/-- A command that is no reading is refused or takes effect. -/
theorem execute_writing (host : Host) (s : Sessions) (writes : c.isReading = false) :
    Refused s (host.execute s c) ∨
      host.Effect s c (host.execute s c).1 (host.execute s c).2 := by
  cases c with
  | health | machines | describe _ | progress _ => cases writes
  | openSession authenticated plan =>
    unfold execute
    dsimp only
    split
    · exact .inl (refused s _)
    · rename_i room
      exact .inr (.opened (Nat.lt_of_not_le room) rfl)
  | close id =>
    unfold execute
    dsimp only
    cases found : s.find? id with
    | none => exact .inl (refused s _)
    | some t => exact .inr (.closed found)
  | observe id route =>
    unfold execute
    dsimp only
    cases found : s.find? id with
    | none => exact .inl (refused s _)
    | some t => exact .inr (.observed found)
  | select | tutorial | flow | restart => exact execute_performing host s rfl rfl fun _ => by simp

/-- A request leaves the sessions as they are, because it is refused or because its method only
reads, or it is a command that takes effect. -/
theorem reply_cases (host : Host) (s : Sessions) (r : Request) :
    ((host.reply s r).2 = s ∧ ((∃ refusal, (host.reply s r).1 = .refused refusal) ∨
      r.method ∈ ["GET", "HEAD", "OPTIONS"] ∧ (host.reply s r).1.status = 200)) ∨
    ∃ c, r.command = .ok c ∧ c.isReading = false ∧
      host.Effect s c (host.reply s r).1 (host.reply s r).2 := by
  unfold reply
  split
  · rename_i options
    exact .inl ⟨rfl, .inr ⟨by simp [options], rfl⟩⟩
  · split
    · exact .inl ⟨rfl, .inl ⟨_, rfl⟩⟩
    · cases asks : r.command with
      | error refusal => exact .inl ⟨rfl, .inl ⟨_, rfl⟩⟩
      | ok c =>
        cases reading : c.isReading with
        | true =>
          have method : r.method ∈ ["GET", "HEAD", "OPTIONS"] := by
            have := Command.method_of_reading asks reading
            simp_all
          obtain ⟨same, refused | told⟩ := host.execute_reading s reading
          · exact .inl ⟨same, .inl refused⟩
          · exact .inl ⟨same, .inr ⟨method, told⟩⟩
        | false =>
          obtain ⟨same, refused⟩ | effect := host.execute_writing s reading
          · exact .inl ⟨same, .inl refused⟩
          · exact .inr ⟨c, rfl, reading, effect⟩

theorem reply_admitted (admitted : host.isAdmitted r = true) (asks : r.command = .ok c) :
    host.reply s r = host.execute s c := by
  simp [reply, admitted, asks, Command.method_ne_options asks]

theorem respond_eq (host : Host) (s : Sessions) (r : Request) :
    host.respond s r = (host.answer r (host.reply s r).1, (host.reply s r).2) := rfl

@[simp] theorem respondAll_nil : host.respondAll s [] = ([], s) := rfl

@[simp] theorem respondAll_cons {rest : List Request} : host.respondAll s (r :: rest) =
    ((host.respond s r).1 :: (host.respondAll (host.respond s r).2 rest).1,
      (host.respondAll (host.respond s r).2 rest).2) := rfl

/-- A property of tours that a session has when it opens, and that requests keep. -/
structure Keeps (host : Host) (P : Tour → Prop) : Prop where
  opened : ∀ authenticated plan, P (host.welcome authenticated plan).takeIntents.2
  operated : ∀ {t op}, P t → Requested op → P (t.step op).2.takeIntents.2
  observed : ∀ {t route}, P t → Requested (.observe route) → P (t.observe route)

namespace Keeps

variable {P : Tour → Prop}

theorem respond (keeps : host.Keeps P) (h : s.Each P) (r : Request) :
    (host.respond s r).2.Each P := by
  rw [respond_eq]
  obtain ⟨same, -⟩ | ⟨c, asks, -, effect⟩ := host.reply_cases s r
  · dsimp only
    rw [same]
    exact h
  · generalize (host.reply s r).1 = reply, (host.reply s r).2 = next at effect
    cases effect with
    | opened _ new =>
      rw [new]
      exact h.insert (keeps.opened _ _)
    | closed => exact h.erase _
    | operated _ asked found => exact h.replace (keeps.operated (h.found found) ⟨r, c, asks, asked⟩)
    | observed found => exact h.replace (keeps.observed (h.found found) ⟨r, _, asks, rfl⟩)

theorem respondAll (keeps : host.Keeps P) (h : s.Each P) (rs : List Request) :
    (host.respondAll s rs).2.Each P := by
  induction rs generalizing s with
  | nil => exact h
  | cons r rest ih => exact ih (keeps.respond h r)

end Keeps

theorem filterMap_cons_toList (f : α → Option β) (a : α) (rest : List α) :
    (a :: rest).filterMap f = (f a).toList ++ rest.filterMap f := by
  rw [List.filterMap_cons]
  cases f a <;> rfl

/-- Every request that fails, and every one that only reads, leaves the sessions and the next id
as they were. Any other request is a command that takes effect. -/
theorem respond_changes (host : Host) (s : Sessions) (r : Request) :
    let (response, next) := host.respond s r
    (400 ≤ response.status ∨ r.method ∈ ["GET", "HEAD", "OPTIONS"] → next = s) ∧
    (response.status < 400 → r.method ∉ ["GET", "HEAD", "OPTIONS"] →
      ∃ c, r.command = .ok c ∧ host.Effect s c (host.reply s r).1 next) := by
  change (400 ≤ (host.reply s r).1.status ∨ _ → (host.reply s r).2 = s) ∧
    ((host.reply s r).1.status < 400 → _ → ∃ c, _ ∧ host.Effect s c _ (host.reply s r).2)
  obtain ⟨same, told⟩ | ⟨c, asks, writes, effect⟩ := host.reply_cases s r
  · refine ⟨fun _ => same, fun succeeds other => ?_⟩
    obtain ⟨refusal, refused⟩ | ⟨quiet, -⟩ := told
    · rw [refused] at succeeds
      exact absurd refusal.le_status (Nat.not_le_of_lt succeeds)
    · exact absurd quiet other
  · have succeeds := effect.status_lt
    have method := Command.method_of_writing asks writes
    refine ⟨fun quiet => ?_, fun _ _ => ⟨c, asks, effect⟩⟩
    obtain fails | quiet := quiet
    · omega
    · simp at quiet method
      obtain h | h | h := method <;> simp [h] at quiet

end Host

end GuidedTour.Service
