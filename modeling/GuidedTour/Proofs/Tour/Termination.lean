import GuidedTour.Proofs.Tour.Structure

/-! The interpreter returns. `Performs` runs actions with no measure in sight: a completion begins
the next flow and performs its entry actions, or tells the tutorial that all is done and performs
the answer, and only then goes on with what is left. Whatever the tables say, there is exactly one
such run from every tour whose active flow is planned. It uses up the features that are due, which
bounds the completions, and it ends where the executable tour does. -/
namespace GuidedTour

/-- While a flow is active, one `DONE` may still be sent. -/
def Session.owed (s : Session) : Nat := min 1 s.due.length

namespace Tour

/-- Actions performed by recursion: the flows that they complete, in order, and how often they
tell the tutorial that all is done. -/
inductive Performs : List Action → Tour → List Feature → Nat → Tour → Prop where
  | nil (t : Tour) : Performs [] t [] 0 t
  | act {action rest t features dones after} : action ≠ .completeFeature →
      Performs rest (t.perform action) features dones after →
      Performs (action :: rest) t features dones after
  | idle {rest t features dones after} : t.session.flow = none →
      Performs rest t features dones after →
      Performs (.completeFeature :: rest) t features dones after
  | next {flow next rest t between after inner outer n m} : t.session.flow = some flow →
      t.nextFeature = some next →
      Performs (beginActions t.registry next) ((t.markCompleted flow.feature).begin next)
        inner n between →
      Performs rest between outer m after →
      Performs (.completeFeature :: rest) t (flow.feature :: inner ++ outer) (n + m) after
  | last {flow rest t between after inner outer n m} : t.session.flow = some flow →
      t.nextFeature = none →
      Performs (t.markCompleted flow.feature).finish.2 (t.markCompleted flow.feature).finish.1
        inner n between →
      Performs rest between outer m after →
      Performs (.completeFeature :: rest) t (flow.feature :: inner ++ outer) (1 + n + m) after

/-- An operation performs what it opened with by recursion, and after a selection also what
`CONTINUE` opens with. -/
inductive Returns (t : Tour) (op : Operation) : List Feature → Nat → Tour → Prop where
  | once {features dones after} :
      Performs (t.opening op).1 (t.opening op).2 features dones after → ¬after.Continues op →
      Returns t op features dones after
  | twice {inner outer n m between after} :
      Performs (t.opening op).1 (t.opening op).2 inner n between → between.Continues op →
      Performs (between.opening (.tutorial none "CONTINUE")).1
        (between.opening (.tutorial none "CONTINUE")).2 outer m after →
      Returns t op (inner ++ outer) (n + m) after

variable {actions front rest : List Action} {t start between after other : Tour}
  {features more inner outer : List Feature} {dones n m : Nat}

namespace Performs

theorem unique (h : Performs actions t features dones after)
    (h' : Performs actions t more m other) : features = more ∧ dones = m ∧ after = other := by
  induction h generalizing more m other with
  | nil t =>
    cases h'
    simp
  | act ne _ ih =>
    cases h' with
    | act _ h' => exact ih h'
    | idle => exact absurd rfl ne
    | next => exact absurd rfl ne
    | last => exact absurd rfl ne
  | idle hf _ ih =>
    cases h' with
    | act ne => exact absurd rfl ne
    | idle _ h' => exact ih h'
    | next hf' => simp [hf] at hf'
    | last hf' => simp [hf] at hf'
  | next hf hn _ _ ihInner ihOuter =>
    cases h' with
    | act ne => exact absurd rfl ne
    | idle hf' => simp [hf] at hf'
    | next hf' hn' inner' outer' =>
      cases hf.symm.trans hf'
      cases hn.symm.trans hn'
      obtain ⟨rfl, rfl, rfl⟩ := ihInner inner'
      obtain ⟨rfl, rfl, rfl⟩ := ihOuter outer'
      simp
    | last _ hn' => simp [hn] at hn'
  | last hf hn _ _ ihInner ihOuter =>
    cases h' with
    | act ne => exact absurd rfl ne
    | idle hf' => simp [hf] at hf'
    | next _ hn' => simp [hn] at hn'
    | last hf' _ inner' outer' =>
      cases hf.symm.trans hf'
      obtain ⟨rfl, rfl, rfl⟩ := ihInner inner'
      obtain ⟨rfl, rfl, rfl⟩ := ihOuter outer'
      simp

theorem split (h : Performs (front ++ rest) t features dones after) :
    ∃ inner outer n m between, Performs front t inner n between ∧
      Performs rest between outer m after ∧ features = inner ++ outer ∧ dones = n + m := by
  -- On the front, not on the run: what a completion nests is not divided.
  induction front generalizing t features dones with
  | nil => exact ⟨[], features, 0, dones, t, .nil t, h, rfl, by omega⟩
  | cons action front ih =>
    cases h with
    | act ne h =>
      obtain ⟨inner, outer, n, m, between, first, second, hf, hd⟩ := ih h
      exact ⟨inner, outer, n, m, between, .act ne first, second, hf, hd⟩
    | idle none h =>
      obtain ⟨inner, outer, n, m, between, first, second, hf, hd⟩ := ih h
      exact ⟨inner, outer, n, m, between, .idle none first, second, hf, hd⟩
    | next active hn nested h =>
      obtain ⟨inner, outer, n, m, between, first, second, rfl, rfl⟩ := ih h
      refine ⟨_, outer, _, m, between, .next active hn nested first, second, ?_, ?_⟩
      · simp
      · omega
    | last active hn nested h =>
      obtain ⟨inner, outer, n, m, between, first, second, rfl, rfl⟩ := ih h
      refine ⟨_, outer, _, m, between, .last active hn nested first, second, ?_, ?_⟩
      · simp
      · omega

end Performs

/-- On the way from one tour to another the completed features were the first ones due, and a
`DONE` was sent only with the last of them. -/
structure Spent (start : Tour) (features : List Feature) (dones : Nat) (t : Tour) : Prop where
  due : features ++ t.session.due <+: start.session.due
  dones : dones + t.session.owed ≤ start.session.owed

namespace Spent

theorem refl (t : Tour) : t.Spent [] 0 t := ⟨List.prefix_refl _, by omega⟩

theorem trans (h : start.Spent features dones t) (h' : t.Spent more n after) :
    start.Spent (features ++ more) (dones + n) after := by
  constructor
  · apply List.IsPrefix.trans _ h.due
    rw [List.append_assoc]
    exact (List.prefix_append_right_inj features).2 h'.due
  · have := h.dones
    have := h'.dones
    omega

theorem perform (t : Tour) (action : Action) : t.Spent [] 0 (t.perform action) := by
  obtain ⟨hd, -⟩ | ⟨hd, -⟩ := t.due_perform action
  · exact ⟨by simp [hd], by simp [Session.owed, hd]⟩
  · exact ⟨by simp [hd], by simp [Session.owed, hd]⟩

theorem next {flow : Flow} {next : Feature} {ahead : List Feature}
    (hf : t.session.flow = some flow) (nodup : t.session.plan.Nodup)
    (ha : t.session.ahead = next :: ahead) :
    t.Spent [flow.feature] 0 ((t.markCompleted flow.feature).begin next) := by
  have before := due_of_flow hf
  have after := due_next hf nodup ha
  rw [ha] at before
  exact ⟨by simp [before, after], by simp [Session.owed, before, after]⟩

theorem last {flow : Flow} (hf : t.session.flow = some flow) (ha : t.session.ahead = []) :
    t.Spent [flow.feature] 1 (t.markCompleted flow.feature).finish.1 := by
  have before := due_of_flow hf
  have after := due_of_none (finish_flow (t.markCompleted flow.feature))
  rw [ha] at before
  exact ⟨by simp [before, after], by simp [Session.owed, before, after]⟩

end Spent

/-- Performing all actions from the start has come to a tour and the actions that are left. -/
def Reached (all : List Action) (start : Tour) (actions : List Action) (t : Tour) : Prop :=
  ∃ features dones, start.Spent features dones t ∧
    ∀ {more n after}, Performs actions t more n after →
      Performs all start (features ++ more) (dones + n) after

theorem carried_reached (all : List Action) (start : Tour) : Carried (Reached all start) where
  skip hf h := by
    obtain ⟨features, dones, spent, goesOn⟩ := h
    exact ⟨features, dones, spent, fun run => goesOn (.idle hf run)⟩
  act {action _ t} ne h := by
    obtain ⟨features, dones, spent, goesOn⟩ := h
    refine ⟨features, dones, ?_, fun run => goesOn (.act ne run)⟩
    simpa using spent.trans (.perform t action)
  next {flow _ _ _ _} hf nodup ha h := by
    obtain ⟨features, dones, spent, goesOn⟩ := h
    refine ⟨features ++ [flow.feature], dones, spent.trans (.next hf nodup ha), ?_⟩
    intro more n after run
    -- The entry actions of the next flow stand in front of the rest; their run is the nested one.
    obtain ⟨inner, outer, n, m, between, nested, rest, rfl, rfl⟩ := run.split
    have all := goesOn (.next hf (by simp [nextFeature, ha]) nested rest)
    simpa using all
  last {flow _ _} hf ha h := by
    obtain ⟨features, dones, spent, goesOn⟩ := h
    refine ⟨features ++ [flow.feature], dones + 1, spent.trans (.last hf ha), ?_⟩
    intro more n after run
    obtain ⟨inner, outer, n, m, between, nested, rest, rfl, rfl⟩ := run.split
    have all := goesOn (.last hf (by simp [nextFeature, ha]) nested rest)
    simpa [Nat.add_assoc] using all

/-- The recursion returns, with what the executable interpreter computes. -/
theorem performs_performAll (nodup : t.session.plan.Nodup) (actions : List Action) :
    ∃ features dones, Performs actions t features dones (t.performAll actions) ∧
      t.Spent features dones (t.performAll actions) := by
  have start : Reached actions t actions t := by
    refine ⟨[], 0, .refl t, ?_⟩
    intro more n after run
    simpa using run
  obtain ⟨features, dones, spent, goesOn⟩ := (carried_reached actions t).performAll nodup start
  refine ⟨features, dones, ?_, spent⟩
  simpa using goesOn (.nil _)

theorem Returns.unique {op : Operation} (h : t.Returns op features dones after)
    (h' : t.Returns op more m other) : features = more ∧ dones = m ∧ after = other := by
  cases h with
  | once run stops =>
    cases h' with
    | once run' stops' => exact run.unique run'
    | twice run' continues' =>
      obtain ⟨-, -, rfl⟩ := run.unique run'
      exact absurd continues' stops
  | twice run continues second =>
    cases h' with
    | once run' stops' =>
      obtain ⟨-, -, rfl⟩ := run.unique run'
      exact absurd continues stops'
    | twice run' continues' second' =>
      obtain ⟨rfl, rfl, rfl⟩ := run.unique run'
      obtain ⟨rfl, rfl, rfl⟩ := second.unique second'
      simp

/-- The plan that an operation works through. A selection brings its own, and a fresh start
has none. -/
def planFor (t : Tour) : Operation → List Feature
  | .select features => Feature.distinct features
  | .restart | .reset => []
  | .tutorial .. | .flow .. | .observe _ | .dismiss => t.session.plan

theorem due_suffix_plan {s : Session}
    (planned : ∀ flow, s.flow = some flow → flow.feature ∈ s.plan) : s.due <:+ s.plan := by
  unfold Session.due Session.ahead
  cases hf : s.flow with
  | none => exact List.nil_suffix
  | some flow => exact featuresAfter_suffix (planned flow hf)

theorem due_openTutorial (claim : Option String) (event : String) :
    (t.openTutorial claim event).2.session.due = t.session.due :=
  openTutorial_induction (I := fun _ u => u.session.due = t.session.due) claim event rfl
    fun _ => rfl

theorem due_openFlow (claim : Option String) (event : String) (given : Option FlowParams) :
    (t.openFlow claim event given).2.session.due = t.session.due := by
  unfold openFlow
  cases hf : t.session.flow with
  | none => rfl
  | some flow =>
    dsimp only
    split
    · exact due_flowMoved hf
    · rfl

theorem due_opening (planned : ∀ flow, t.session.flow = some flow → flow.feature ∈ t.session.plan)
    (op : Operation) : (t.opening op).2.session.due <:+ t.planFor op := by
  cases op with
  | tutorial claim event =>
    simp only [opening, due_openTutorial]
    exact due_suffix_plan planned
  | flow claim event given =>
    simp only [opening, due_openFlow]
    exact due_suffix_plan planned
  | select features =>
    simp only [opening, planFor]
    cases Feature.distinct features with
    | nil => exact List.nil_suffix
    | cons first rest =>
      simp only [openSelect, due_planned]
      exact List.suffix_refl _
  | observe route => exact due_suffix_plan planned
  | dismiss =>
    simp only [opening, due_openTutorial]
    exact due_suffix_plan planned
  | restart =>
    simp only [opening, due_openTutorial]
    exact List.nil_suffix
  | reset => exact List.nil_suffix

theorem opened_returns (nodup : t.session.plan.Nodup) (op : Operation) :
    ∃ features dones,
      Performs (t.opening op).1 (t.opening op).2 features dones (t.opened op) ∧
      (t.opening op).2.Spent features dones (t.opened op) :=
  performs_performAll (kept_nodup.opening nodup op) _

theorem step_spent (nodup : t.session.plan.Nodup) (op : Operation) :
    ∃ features dones, t.Returns op features dones (t.step op).2 ∧
      (t.opening op).2.Spent features dones (t.step op).2 := by
  obtain ⟨inner, n, run, spent⟩ := opened_returns nodup op
  rw [step_eq]
  by_cases continues : (t.opened op).Continues op
  · obtain ⟨outer, m, second, spent'⟩ :=
      opened_returns (kept_nodup.opened nodup op) (.tutorial none "CONTINUE")
    rw [if_pos continues]
    refine ⟨inner ++ outer, n + m, .twice run continues second, spent.trans ?_⟩
    have same : ((t.opened op).opening (.tutorial none "CONTINUE")).2.session.due =
        (t.opened op).session.due := due_openTutorial none "CONTINUE"
    refine ⟨same ▸ spent'.due, ?_⟩
    have owed := spent'.dones
    unfold Session.owed at owed ⊢
    rwa [same] at owed
  · rw [if_neg continues]
    exact ⟨inner, n, .once run continues, spent⟩

/-- Over every registry, each operation on a tour whose plan lists nothing twice and lists the
active feature returns: performed by recursion it has exactly one result, the executable one. It
completes no more features than are planned, in their order, and sends at most one `DONE`. -/
theorem step_returns (t : Tour) (op : Operation) (nodup : t.session.plan.Nodup)
    (planned : ∀ flow, t.session.flow = some flow → flow.feature ∈ t.session.plan) :
    ∃ features dones,
      (∀ more n after, t.Returns op more n after ↔
        more = features ∧ n = dones ∧ after = (t.step op).2) ∧
      features <:+: t.planFor op ∧ features.length ≤ (t.planFor op).length ∧ dones ≤ 1 := by
  obtain ⟨features, dones, returns, spent⟩ := step_spent nodup op
  have front : features <+: (t.opening op).2.session.due :=
    (List.prefix_append _ _).trans spent.due
  have order : features <:+: t.planFor op := front.isInfix.trans (due_opening planned op).isInfix
  refine ⟨features, dones, fun more n after => ⟨fun h => h.unique returns, ?_⟩, order,
    order.length_le, ?_⟩
  · rintro ⟨rfl, rfl, rfl⟩
    exact returns
  · have := spent.dones
    unfold Session.owed at this
    omega

/-- One event completes both planned flows. -/
theorem step_returns_roundabouts :
    let t := (enter roundabouts).run [.select [.secrets, .tools]]
    let op : Operation := .flow none "SKIP" none
    (t.step op).2.session.completed.contains .tools = true ∧
      ∃ features dones, t.Returns op features dones (t.step op).2 ∧
        features <:+: [.secrets, .tools] ∧ dones ≤ 1 := by
  intro t op
  have plan : t.session.plan = [.secrets, .tools] := by decide +kernel
  have active : t.session.flow = some (.begun roundabouts .secrets) := by decide +kernel
  have planned : ∀ flow, t.session.flow = some flow → flow.feature ∈ t.session.plan := by
    intro flow hf
    cases active.symm.trans hf
    simp [plan, Flow.begun]
  obtain ⟨features, dones, returns, order, -, once⟩ :=
    step_returns t op (by simp [plan]) planned
  refine ⟨by decide +kernel, features, dones, (returns _ _ _).2 ⟨rfl, rfl, rfl⟩, ?_, once⟩
  rw [← plan]
  exact order

end Tour

end GuidedTour
