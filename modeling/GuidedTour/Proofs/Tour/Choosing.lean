import GuidedTour.Proofs.Flow.Forks
import GuidedTour.Proofs.Tour.Answering
import GuidedTour.Proofs.Tour.Ordering
import GuidedTour.Proofs.Tour.Runs
import GuidedTour.Proofs.Tour.Termination

/-! Which parameters a guard sees. A flow begins with none, and only a flow event that is taken
replaces them. So while a flow is active they are those that it was told last, and nothing that an
earlier flow or an ignored event brought. On the secrets flow the branch that the history shows is
therefore the one of the engine that was chosen on the way. -/
namespace GuidedTour

open Flow.Secrets (Fork forks supportedEngines)

def Operation.given : Operation → Option FlowParams
  | flow _ _ given => given
  | _ => none

namespace Tour

variable {t u start between after : Tour} {flow : Flow} {op : Operation}
  {ops since : List Operation} {features inner outer : List Feature} {dones n m : Nat}
  {actions : List Action}

/-- The active flow takes the event. -/
def Takes (t : Tour) (op : Operation) (event : String) : Prop :=
  ∃ claim given outcome, op = .flow claim event given ∧ (t.step op).1 = some outcome ∧
    outcome.handled = true

/-- An event with parameters is taken. -/
def Brings (t : Tour) (op : Operation) : Prop := op.given ≠ none ∧ ∃ event, t.Takes op event

/-- A selection begins the first of its flows, and every completion the next one, but for that of
the last planned flow, which sends `DONE`. -/
def Begins (t : Tour) (op : Operation) : Prop :=
  (∃ features, features ≠ [] ∧ op = .select features) ∨
    ∃ features dones, t.Returns op features dones (t.step op).2 ∧ dones < features.length

/-- The parameters are the last ones brought on a run, or none were. -/
def Brought (t : Tour) (ops : List Operation) (params : FlowParams) : Prop :=
  Never Brings t ops ∧ params = {} ∨
    ∃ u op since, Latest Brings t ops u op since ∧ op.given = some params

/-- On the way from one tour to another the active flow and its parameters are kept, or it is
completed and another begins in its place, without any. -/
structure Outlasts (start : Tour) (features : List Feature) (dones : Nat) (after : Tour) :
    Prop where
  registry : after.registry = start.registry
  flow : ∀ flow, after.session.flow = some flow → dones = 0 ∧
    (features = [] ∧ start.session.flow = some flow ∧
        after.session.params = start.session.params ∨
      features ≠ [] ∧ start.session.flow ≠ none ∧
        flow = .begun start.registry flow.feature ∧ after.session.params = {})

namespace Outlasts

theorem of_same (registry : after.registry = start.registry)
    (h : ∀ flow, after.session.flow = some flow → start.session.flow = some flow ∧
      after.session.params = start.session.params) : Outlasts start [] 0 after :=
  ⟨registry, fun flow hf => ⟨rfl, .inl ⟨rfl, h flow hf⟩⟩⟩

theorem trans (first : Outlasts start inner n between) (second : Outlasts between outer m after) :
    Outlasts start (inner ++ outer) (n + m) after := by
  refine ⟨second.registry.trans first.registry, fun flow hf => ?_⟩
  obtain ⟨rfl, ⟨rfl, active, kept⟩ | ⟨completes, active, begun, untold⟩⟩ := second.flow flow hf
  · rw [List.append_nil, Nat.add_zero, kept]
    exact first.flow flow active
  · obtain ⟨before, hb⟩ := Option.ne_none_iff_exists'.1 active
    obtain ⟨rfl, ended⟩ := first.flow before hb
    rw [first.registry] at begun
    refine ⟨rfl, .inr ⟨by simp [completes], ?_, begun, untold⟩⟩
    obtain ⟨-, same, -⟩ | ⟨-, active, -⟩ := ended
    · simp [same]
    · exact active

theorem perform (t : Tour) (action : Action) : Outlasts t [] 0 (t.perform action) :=
  of_same (perform_registry t action) fun _ hf =>
    ⟨(flow_of_perform hf).1, params_of_perform hf⟩

theorem complete (hf : t.session.flow = some flow) (f : Feature) :
    Outlasts t [flow.feature] 0 ((t.markCompleted flow.feature).begin f) := by
  refine ⟨rfl, fun begun hb => ⟨rfl, .inr ⟨List.cons_ne_nil _ _, by simp [hf], ?_, rfl⟩⟩⟩
  obtain rfl := Option.some.inj hb
  rfl

theorem last (t : Tour) (f : Feature) : Outlasts t [f] 1 (t.markCompleted f).finish.1 :=
  ⟨rfl, fun _ hf => by cases hf⟩

theorem openTutorial (t : Tour) (claim : Option String) (event : String) :
    Outlasts t [] 0 (t.openTutorial claim event).2 :=
  openTutorial_induction (I := fun _ u => Outlasts t [] 0 u) claim event
    (of_same rfl fun _ hf => ⟨hf, rfl⟩) fun _ => of_same rfl fun _ hf => ⟨hf, rfl⟩

end Outlasts

-- On the run, as `Performs` nests what a completion performs before it goes on.
theorem Performs.outlasts (h : Performs actions t features dones after) :
    t.Outlasts features dones after := by
  induction h with
  | nil t => exact .of_same rfl fun _ hf => ⟨hf, rfl⟩
  | act _ _ ih => simpa using (Outlasts.perform _ _).trans ih
  | idle _ _ ih => exact ih
  | next hf _ _ _ ihInner ihOuter =>
    simpa using (Outlasts.complete hf _).trans (ihInner.trans ihOuter)
  | last _ _ _ _ ihInner ihOuter =>
    simpa [Nat.add_assoc] using (Outlasts.last _ _).trans (ihInner.trans ihOuter)

theorem Returns.outlasts (h : t.Returns op features dones after) :
    (t.opening op).2.Outlasts features dones after := by
  cases h with
  | once run => exact run.outlasts
  | twice run _ second =>
    simpa using run.outlasts.trans ((Outlasts.openTutorial _ none "CONTINUE").trans second.outlasts)

/-- What an operation makes of the active flow that begins none: the flow is left alone, or takes
an event. -/
inductive GoesOn (t : Tour) (op : Operation) (flow : Flow) (params : FlowParams) : Prop where
  | kept : (∀ event, ¬t.Takes op event) → t.session.flow = some flow →
      params = t.session.params → GoesOn t op flow params
  | moved {before event} : t.Takes op event → t.session.flow = some before →
      (before.answer t.registry event params).handled = true →
      params = op.given.getD t.session.params →
      flow = before.moved t.registry event (before.answer t.registry event params) →
      GoesOn t op flow params

theorem takes_flow_iff {claim : Option String} {event event' : String}
    {given : Option FlowParams} (hf : t.session.flow = some flow) :
    t.Takes (.flow claim event given) event' ↔
      event' = event ∧ t.Listens (claim.getD flow.state) event given flow := by
  have sent := congrArg Prod.fst (step_flow_of_some hf claim event given)
  constructor
  · rintro ⟨_, _, outcome, same, answer, handled⟩
    cases same
    obtain rfl := Option.some.inj (sent.symm.trans answer)
    obtain ⟨other, listens⟩ := handled_flowFrom_iff.1 handled
    obtain rfl := Option.some.inj (hf.symm.trans listens.running)
    exact ⟨rfl, listens⟩
  · rintro ⟨rfl, listens⟩
    exact ⟨claim, given, _, rfl, sent, handled_flowFrom_iff.2 ⟨flow, listens⟩⟩

theorem openFlow_goesOn (claim : Option String) (event : String) (given : Option FlowParams)
    (hf : (t.openFlow claim event given).2.session.flow = some flow) :
    t.GoesOn (.flow claim event given) flow (t.openFlow claim event given).2.session.params := by
  cases hb : t.session.flow with
  | none =>
    have stays : t.openFlow claim event given = ([], t) := by simp only [openFlow, hb]
    rw [stays, hb] at hf
    cases hf
  | some before =>
    by_cases listens : t.Listens (claim.getD before.state) event given before
    · have moves : t.openFlow claim event given =
          ((before.answer t.registry event (given.getD t.session.params)).actions,
            t.flowMoved before event (given.getD t.session.params)) := by
        simp only [openFlow, hb]
        exact if_pos ⟨listens.active, listens.claimed, listens.handled⟩
      rw [moves] at hf ⊢
      exact .moved ((takes_flow_iff hb).2 ⟨rfl, listens⟩) hb listens.handled rfl
        (Option.some.inj hf).symm
    · have stays : t.openFlow claim event given = ([], t) := by
        simp only [openFlow, hb]
        exact if_neg fun taken => listens ⟨hb, taken.1, taken.2.1, taken.2.2⟩
      rw [stays] at hf ⊢
      exact .kept (fun event' takes => listens ((takes_flow_iff hb).1 takes).2) hf rfl

theorem not_takes (h : ∀ claim event given, op ≠ .flow claim event given) (event : String) :
    ¬t.Takes op event :=
  fun ⟨claim, given, _, same, _⟩ => h claim event given same

/-- With what is active an operation opens: it selects another plan, or goes on. -/
theorem opening_goesOn (hf : (t.opening op).2.session.flow = some flow) :
    (∃ features, features ≠ [] ∧ op = .select features) ∧ flow = .begun t.registry flow.feature ∧
        (t.opening op).2.session.params = {} ∨
      (∀ features, op ≠ .select features) ∧ t.GoesOn op flow (t.opening op).2.session.params := by
  cases op with
  | tutorial claim event =>
    obtain ⟨-, ⟨-, active, params⟩ | ⟨other, -⟩⟩ :=
      (Outlasts.openTutorial t claim event).flow flow hf
    · exact .inr ⟨by simp, .kept (not_takes (by simp)) active params⟩
    · exact absurd rfl other
  | flow claim event given => exact .inr ⟨by simp, openFlow_goesOn claim event given hf⟩
  | select features =>
    left
    cases features with
    | nil => cases hf
    | cons first rest =>
      obtain rfl := Option.some.inj hf
      exact ⟨⟨first :: rest, List.cons_ne_nil _ _, rfl⟩, rfl, rfl⟩
  | observe route => exact .inr ⟨by simp, .kept (not_takes (by simp)) hf rfl⟩
  | dismiss =>
    obtain ⟨-, ⟨-, active, params⟩ | ⟨other, -⟩⟩ :=
      (Outlasts.openTutorial t none "DISMISS").flow flow hf
    · exact .inr ⟨by simp, .kept (not_takes (by simp)) active params⟩
    · exact absurd rfl other
  | restart =>
    obtain ⟨-, ⟨-, active, -⟩ | ⟨other, -⟩⟩ :=
      (Outlasts.openTutorial t.anew none "AUTH").flow flow hf
    · cases active
    · exact absurd rfl other
  | reset => cases hf

theorem opening_registry (t : Tour) (op : Operation) : (t.opening op).2.registry = t.registry := by
  cases op with
  | tutorial claim event => exact (Outlasts.openTutorial t claim event).registry
  | flow claim event given =>
    simp only [opening, openFlow]
    split
    · rfl
    · split <;> rfl
  | select features => cases features <;> rfl
  | observe route => rfl
  | dismiss => exact (Outlasts.openTutorial t none "DISMISS").registry
  | restart => exact (Outlasts.openTutorial t.anew none "AUTH").registry
  | reset => rfl

/-- What an operation makes of the active flow: it begins it, or goes on with it. -/
theorem step_goesOn (nodup : t.session.plan.Nodup)
    (hf : (t.step op).2.session.flow = some flow) :
    t.Begins op ∧ flow = .begun t.registry flow.feature ∧ (t.step op).2.session.params = {} ∨
      ¬t.Begins op ∧ t.GoesOn op flow (t.step op).2.session.params := by
  obtain ⟨features, dones, returns, -⟩ := step_spent nodup op
  obtain ⟨rfl, ⟨rfl, active, params⟩ | ⟨completes, active, begun, untold⟩⟩ :=
    returns.outlasts.flow flow hf
  · rw [params]
    obtain ⟨selects, begun⟩ | ⟨other, goesOn⟩ := opening_goesOn active
    · exact .inl ⟨.inl selects, begun⟩
    · refine .inr ⟨?_, goesOn⟩
      rintro (⟨features, -, same⟩ | ⟨features, dones, returns', more⟩)
      · exact other features same
      · obtain ⟨rfl, rfl, -⟩ := returns.unique returns'
        exact absurd more (by simp)
  · rw [opening_registry] at begun
    exact .inl ⟨.inr ⟨features, 0, returns, List.length_pos_iff.2 completes⟩, begun, untold⟩

theorem step_registry (nodup : t.session.plan.Nodup) (op : Operation) :
    (t.step op).2.registry = t.registry := by
  obtain ⟨_, _, returns, -⟩ := step_spent nodup op
  exact returns.outlasts.registry.trans (opening_registry t op)

theorem Brought.concat {params : FlowParams} (h : t.Brought ops params)
    (not : ¬(t.run ops).Brings op) : t.Brought (ops ++ [op]) params := by
  obtain ⟨never, rfl⟩ | ⟨u, o, since, latest, told⟩ := h
  · exact .inl ⟨never_concat.2 ⟨never, not⟩, rfl⟩
  · exact .inr ⟨u, o, _, latest.concat not, told⟩

/-- Whatever flow is active has just begun. -/
def Fresh (t : Tour) : Prop :=
  ∀ flow, t.session.flow = some flow →
    flow = .begun t.registry flow.feature ∧ t.session.params = {}

theorem fresh_of_begins (nodup : t.session.plan.Nodup) (h : t.Begins op) :
    (t.step op).2.Fresh := by
  intro flow hf
  obtain ⟨-, begun⟩ | ⟨not, -⟩ := step_goesOn nodup hf
  · rw [step_registry nodup]
    exact begun
  · exact absurd h not

/-- Along a run that begins no flow the active one is that of the start, with the parameters
brought since. -/
theorem brought_run (order : t.session.InOrder) (fresh : t.Fresh) (never : Never Begins t ops)
    (hf : (t.run ops).session.flow = some flow) :
    t.session.flow = some (.begun t.registry flow.feature) ∧
      t.Brought ops (t.run ops).session.params := by
  induction ops using List.reverseRecOn generalizing flow with
  | nil =>
    obtain ⟨begun, untold⟩ := fresh flow hf
    exact ⟨hf.trans (congrArg some begun), .inl ⟨.nil, untold⟩⟩
  | append_singleton ops op ih =>
    obtain ⟨never, not⟩ := never_concat.1 never
    rw [run_concat] at hf ⊢
    have nodup : (t.run ops).session.plan.Nodup := (kept_inOrder.run order ops).nodup
    obtain ⟨begins, -⟩ | ⟨-, goesOn⟩ := step_goesOn nodup hf
    · exact absurd begins not
    cases goesOn with
    | kept ignores active same =>
      obtain ⟨begun, brought⟩ := ih never active
      rw [same]
      exact ⟨begun, brought.concat fun ⟨_, event, takes⟩ => ignores event takes⟩
    | @moved before event takes active _ same leads =>
      subst leads
      obtain ⟨begun, brought⟩ := ih never active
      refine ⟨begun, ?_⟩
      rw [same]
      cases given : op.given with
      | none => exact brought.concat fun brings => brings.1 given
      | some params =>
        exact .inr ⟨_, op, [], .last ⟨by simp [given], event, takes⟩, given⟩

theorem outlasts_enter (r : Registry) :
    ∃ features dones, Outlasts ⟨r, .fresh r, []⟩ features dones (enter r) := by
  obtain ⟨features, dones, performs, -⟩ := performs_performAll (t := ⟨r, .fresh r, []⟩)
    List.nodup_nil (r.tutorial.entryActions r.tutorial.initial)
  exact ⟨features, dones, performs.outlasts⟩

theorem registry_run_enter (r : Registry) (ops : List Operation) :
    ((enter r).run ops).registry = r := by
  induction ops using List.reverseRecOn with
  | nil =>
    obtain ⟨_, _, outlasts⟩ := outlasts_enter r
    exact outlasts.registry
  | append_singleton ops op ih =>
    rw [run_concat, step_registry (inOrder_run_enter r ops).nodup, ih]

/-- An active flow was begun, since a tour is entered without one. -/
theorem exists_latest_begins (r : Registry) (hf : ((enter r).run ops).session.flow = some flow) :
    ∃ u op since, Latest Begins (enter r) ops u op since := by
  refine (never_or_latest Begins (enter r) ops).resolve_left fun never => ?_
  have idle : ∀ flow, (enter r).session.flow ≠ some flow := by
    intro flow active
    obtain ⟨_, _, outlasts⟩ := outlasts_enter r
    obtain ⟨-, ⟨-, before, -⟩ | ⟨-, before, -⟩⟩ := outlasts.flow flow active
    · cases before
    · exact before rfl
  have fresh : (enter r).Fresh := fun flow active => absurd active (idle flow)
  exact idle _ (brought_run (t := enter r) (inOrder_run_enter r []) fresh never hf).1

/-- The parameters in effect, given with the operation or else stored. -/
def told (t : Tour) (op : Operation) : FlowParams := op.given.getD t.session.params

/-- `CONTINUE` takes the secrets flow on from this screen. -/
def Leaves (screen : String) (t : Tour) (op : Operation) : Prop :=
  t.Takes op "CONTINUE" ∧
    ∃ flow, t.session.flow = some flow ∧ flow.feature = .secrets ∧ flow.state = screen

theorem Takes.unique {event event' : String} (h : t.Takes op event) (h' : t.Takes op event') :
    event = event' := by
  obtain ⟨_, _, _, rfl, -⟩ := h
  obtain ⟨_, _, _, same, -⟩ := h'
  cases same
  rfl

/-- A way that the history shows was open when its screen was left last. -/
theorem chosen_run (sound : Sound .builtin (fun _ flow => flow.Walked) t) (fresh : t.Fresh)
    (never : Never Begins t ops) (hf : (t.run ops).session.flow = some flow)
    (secrets : flow.feature = .secrets) {fork : Fork} (mem : fork ∈ forks)
    (shown : fork.way ∈ flow.history) :
    ∃ u op since history, Latest (Leaves fork.screen) t ops u op since ∧
      fork.guard.holds ⟨some (u.told op), history⟩ = true := by
  induction ops using List.reverseRecOn generalizing flow with
  | nil =>
    have begun := (fresh flow hf).1
    rw [sound.registry, secrets] at begun
    rw [begun] at shown
    exact absurd shown (Flow.Secrets.ways_not_initial fork mem)
  | append_singleton ops op ih =>
    obtain ⟨never, not⟩ := never_concat.1 never
    rw [run_concat] at hf
    have reached := sound.run Flow.keeps_walked ops
    obtain ⟨begins, -⟩ | ⟨-, goesOn⟩ := step_goesOn reached.plan hf
    · exact absurd begins not
    cases goesOn with
    | kept ignores active =>
      obtain ⟨u, o, since, history, latest, holds⟩ := ih never active secrets shown
      exact ⟨u, o, _, history, latest.concat fun leaves => ignores _ leaves.1, holds⟩
    | @moved before event takes active handled same leads =>
      subst leads
      have walked := (reached.flow before active).2
      rw [reached.registry] at handled shown
      have ways := walked.way_of_moved secrets handled mem shown
      split at ways
      · rename_i leaves
        obtain ⟨screen, rfl⟩ := leaves
        rw [same] at ways
        exact ⟨_, op, [], _, .last ⟨takes, before, active, secrets, screen⟩, ways⟩
      · rename_i stays
        obtain ⟨u, o, since, history, latest, holds⟩ := ih never active secrets ways
        refine ⟨u, o, _, history, latest.concat ?_, holds⟩
        rintro ⟨continues, other, active', -, screen⟩
        obtain rfl := Option.some.inj (active.symm.trans active')
        exact stays ⟨screen, takes.unique continues⟩

/-- While a flow is active the parameters are the last ones that it was told, and none to begin
with. So the branch of the secrets flow is that of the engine that was in effect when `CONTINUE`
was last taken: the list, if on the mounts no supported engine was; and else the branch of the
engine that was on its details. -/
theorem guards_see_what_was_told (r : Registry) (ops : List Operation)
    (hf : ((enter r).run ops).session.flow = some flow) :
    ∃ u start since, Latest Begins (enter r) ops u start since ∧
      (u.step start).2.session.flow = some (.begun r flow.feature) ∧
      (u.step start).2.Brought since ((enter r).run ops).session.params ∧
      (r = .builtin → flow.feature = .secrets → ∀ branch : Branch, branch.marker ∈ flow.history →
        (∃ v op later, Latest (Leaves "enable") (u.step start).2 since v op later ∧
          (branch = .list ↔ ∀ engine ∈ supportedEngines, (v.told op).mountType ≠ some engine)) ∧
        (branch ≠ .list →
          ∃ v op later, Latest (Leaves "details") (u.step start).2 since v op later ∧
            ∀ other ≠ .list,
              (branch = other ↔
                ∃ engine ∈ other.engines, (v.told op).mountType = some engine))) := by
  obtain ⟨u, start, since, latest⟩ := exists_latest_begins r hf
  refine ⟨u, start, since, latest, ?_⟩
  have run := latest.run
  obtain ⟨before, -, rfl, begins, never⟩ := latest
  have order : (((enter r).run before).step start).2.session.InOrder := by
    rw [← run_concat]
    exact inOrder_run_enter r _
  have fresh := fresh_of_begins (inOrder_run_enter r before).nodup begins
  rw [← run] at hf ⊢
  obtain ⟨begun, brought⟩ := brought_run order fresh never hf
  have registry : (((enter r).run before).step start).2.registry = r := by
    rw [← run_concat]
    exact registry_run_enter r _
  rw [registry] at begun
  refine ⟨begun, brought, ?_⟩
  rintro rfl secrets branch shown
  have sound : Sound .builtin (fun _ flow => flow.Walked)
      (((enter .builtin).run before).step start).2 := by
    rw [← run_concat]
    exact sound_run_enter _
  have chosen (fork : Fork) (mem : fork ∈ forks) := chosen_run sound fresh never hf secrets mem
  have history := ((sound.run Flow.keeps_walked since).flow flow hf).2.history
  rw [secrets] at history
  have ways := Flow.Secrets.forks_of_marker branch _ history shown
  by_cases list : branch = .list
  · rw [if_pos list] at ways
    obtain ⟨v, op, later, _, leaves, holds⟩ :=
      chosen ⟨"enable", "list", .mountNotIn supportedEngines⟩ (by decide) ways
    exact ⟨⟨v, op, later, leaves, iff_of_true list (Guard.holds_mountNotIn_iff.1 holds)⟩,
      fun other => absurd list other⟩
  · rw [if_neg list] at ways
    obtain ⟨v, op, later, _, leaves, holds⟩ :=
      chosen ⟨"enable", "details", .mountIn supportedEngines⟩ (by decide) ways.1
    refine ⟨⟨v, op, later, leaves, iff_of_false list ?_⟩, fun _ => ?_⟩
    · obtain ⟨engine, supported, mount⟩ := Guard.holds_mountIn_iff.1 holds
      exact fun others => others engine supported mount
    · obtain ⟨v, op, later, _, leaves, holds⟩ := chosen _ ways.2 shown
      obtain ⟨engine, listed, mount⟩ := Guard.holds_mountIn_iff.1 holds
      refine ⟨v, op, later, leaves, fun other _ => ⟨?_, ?_⟩⟩
      · rintro rfl
        exact ⟨engine, listed, mount⟩
      · rintro ⟨engine', listed', mount'⟩
        obtain rfl := Option.some.inj (mount.symm.trans mount')
        exact Flow.Secrets.engines_apart branch other engine listed listed'

/-- On the details of a key and value engine, an event that they ignore brings another engine. -/
def distracted : List Operation :=
  [.restart, .select [.secrets], .flow none "CONTINUE" none,
    .flow none "CONTINUE" (some { mountType := some "kv" }),
    .flow none "REPEAT" (some { mountType := some "pki" }), .flow none "CONTINUE" none]

/-- The branch is that of the key and value engine all the same. -/
theorem guards_see_what_was_told_distracted :
    let t := (enter .builtin).run distracted
    t.session.flow = some ⟨.secrets, "secret", ["idle", "enable", "details", "secret"]⟩ ∧
      ∃ u start since, Latest Begins (enter .builtin) distracted u start since ∧
        (u.step start).2.Brought since { mountType := some "kv" } ∧
        ∃ v op later, Latest (Leaves "details") (u.step start).2 since v op later ∧
          (v.told op).mountType = some "kv" := by
  intro t
  have facts : t.session.flow =
      some ⟨.secrets, "secret", ["idle", "enable", "details", "secret"]⟩ ∧
        t.session.params = { mountType := some "kv" } := by
    decide +kernel
  obtain ⟨active, params⟩ := facts
  obtain ⟨u, start, since, begins, -, brought, branches⟩ :=
    guards_see_what_was_told .builtin distracted active
  obtain ⟨v, op, later, leaves, only⟩ := (branches rfl rfl .secret (by decide)).2 (by decide)
  obtain ⟨engine, listed, mount⟩ := (only .secret (by decide)).1 rfl
  obtain rfl : engine = "kv" := List.mem_singleton.1 listed
  exact ⟨active, u, start, since, begins, params ▸ brought, v, op, later, leaves, mount⟩

end Tour

end GuidedTour
