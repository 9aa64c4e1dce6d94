import GuidedTour.Proofs.Session.Fitting
import GuidedTour.Proofs.Tour.Opening

/-! Soundness of tours. A property of flows that holds when a flow begins, and that every
handled event of the flow or of the tutorial keeps, holds of the active flow after every
run of operations. The tutorial stays in its machine, the plan lists nothing twice, and
the active flow is planned. An event may break the property if it also completes the
flow: whatever flow is active afterwards has just begun. -/
namespace GuidedTour

/-- A property of flows, given the state of the tutorial, that all events keep. -/
structure Registry.Keeps (r : Registry) (Q : String → Flow → Prop) : Prop where
  initial : r.tutorial.contains r.tutorial.initial = true
  begun : ∀ tutorial f, Q tutorial (.begun r f)
  tutorial : ∀ {tutorial event flow}, Q tutorial flow →
    (r.tutorial.transition tutorial event {}).handled = true →
    Q (r.tutorial.transition tutorial event {}).state flow
  flow : ∀ {s : Session} {flow event params}, s.isActive = true → Q s.tutorial flow →
    (flow.answer r event params).handled = true →
    Q s.tutorial (flow.moved r event (flow.answer r event params)) ∨
      .completeFeature ∈ (flow.answer r event params).actions

/-- The tutorial is in its machine, the plan lists nothing twice, the active flow is
planned and has the property. -/
structure Tour.Sound (r : Registry) (Q : String → Flow → Prop) (t : Tour) : Prop where
  registry : t.registry = r
  tutorial : r.tutorial.contains t.session.tutorial = true
  plan : t.session.plan.Nodup
  flow : ∀ flow, t.session.flow = some flow →
    flow.feature ∈ t.session.plan ∧ Q t.session.tutorial flow

/-- Sound but for a flow that the actions still to be performed complete. -/
structure Tour.Settling (r : Registry) (Q : String → Flow → Prop) (actions : List Action)
    (t : Tour) : Prop where
  registry : t.registry = r
  tutorial : r.tutorial.contains t.session.tutorial = true
  plan : t.session.plan.Nodup
  flow : ∀ flow, t.session.flow = some flow → flow.feature ∈ t.session.plan ∧
    (Q t.session.tutorial flow ∨ .completeFeature ∈ actions)

namespace Tour

variable {r : Registry} {Q : String → Flow → Prop} {t : Tour} {actions : List Action}

theorem Settling.sound (h : Settling r Q [] t) : Sound r Q t := by
  refine ⟨h.registry, h.tutorial, h.plan, fun flow hf => ?_⟩
  obtain ⟨mem, holds | completes⟩ := h.flow flow hf
  · exact ⟨mem, holds⟩
  · cases completes

theorem Sound.fits (h : Sound r Q t) (fits : ∀ tutorial flow, Q tutorial flow → flow.Fits r) :
    t.session.Fits r :=
  ⟨h.tutorial, h.plan, fun flow hf => (h.flow flow hf).imp_right (fits _ flow)⟩

theorem sound_of_fits (registry : t.registry = r) (h : t.session.Fits r)
    (holds : ∀ flow, t.session.flow = some flow → Q t.session.tutorial flow) : Sound r Q t :=
  ⟨registry, h.tutorial, h.plan, fun flow hf => ⟨(h.flow flow hf).1, holds flow hf⟩⟩

theorem carried_settling (keeps : r.Keeps Q) : Carried (Settling r Q) where
  skip hf h := by
    refine ⟨h.registry, h.tutorial, h.plan, fun flow hs => ?_⟩
    rw [hf] at hs
    cases hs
  act ha h := by
    refine ⟨by rw [perform_registry, h.registry], by rw [perform_tutorial]; exact h.tutorial,
      plan_nodup_perform h.plan, fun flow hs => ?_⟩
    obtain ⟨before, plan⟩ := flow_of_perform hs
    obtain ⟨mem, holds⟩ := h.flow flow before
    rw [plan, perform_tutorial]
    refine ⟨mem, holds.imp_right fun completes => ?_⟩
    cases completes with
    | head => exact absurd rfl ha
    | tail _ rest => exact rest
  next hf nodup ahead h := by
    refine ⟨h.registry, h.tutorial, h.plan, fun flow hs => ?_⟩
    cases Option.some.inj hs
    rw [ahead_of_flow hf] at ahead
    refine ⟨(featuresAfter_of_cons nodup ahead).1, .inl ?_⟩
    simp only [markCompleted_registry, h.registry]
    exact keeps.begun _ _
  last hf ahead h := by
    refine ⟨h.registry, ?_, h.plan, fun flow hs => ?_⟩
    · rw [finish_tutorial, markCompleted_registry, h.registry]
      exact Machine.contains_transition h.tutorial
    · rw [finish_flow] at hs
      cases hs

theorem Settling.performAll (keeps : r.Keeps Q) (h : Settling r Q actions t) :
    Sound r Q (t.performAll actions) :=
  ((carried_settling keeps).performAll h.plan h).sound

theorem Sound.settling (h : Sound r Q t) (actions : List Action) : Settling r Q actions t :=
  ⟨h.registry, h.tutorial, h.plan, fun flow hf => (h.flow flow hf).imp_right .inl⟩

theorem sound_fresh (keeps : r.Keeps Q) (intents : List Action) :
    Sound r Q ⟨r, .fresh r, intents⟩ :=
  ⟨rfl, keeps.initial, List.nodup_nil, fun _ h => by cases h⟩

theorem sound_anew (keeps : r.Keeps Q) (h : t.registry = r) : Sound r Q t.anew := by
  unfold anew
  rw [h]
  exact sound_fresh keeps []

theorem sound_enter (keeps : r.Keeps Q) : Sound r Q (enter r) :=
  ((sound_fresh keeps []).settling _).performAll keeps

theorem Sound.settling_tutorialMoved (keeps : r.Keeps Q) (h : Sound r Q t) {event : String}
    (handled : (t.tutorialOutcome event).handled = true) :
    Settling r Q (t.tutorialOutcome event).actions (t.tutorialMoved event) := by
  have ho : t.tutorialOutcome event = r.tutorial.transition t.session.tutorial event {} := by
    rw [← h.registry]
    rfl
  unfold tutorialMoved
  rw [ho] at handled ⊢
  refine ⟨h.registry, Machine.contains_transition h.tutorial, h.plan, fun flow hf => ?_⟩
  obtain ⟨mem, holds⟩ := h.flow flow hf
  exact ⟨mem, .inl (keeps.tutorial holds handled)⟩

theorem kept_settling (keeps : r.Keeps Q) : Kept (Settling r Q) where
  toCarried := carried_settling keeps
  nodup h := h.plan
  tutorial h handled := h.sound.settling_tutorialMoved keeps handled
  flow {t flow event params} h hf active handled := by
    obtain ⟨mem, holds⟩ := h.sound.flow flow hf
    refine ⟨h.registry, h.tutorial, h.plan, fun after ha => ?_⟩
    cases Option.some.inj ha
    rw [h.registry] at handled ⊢
    exact ⟨mem, keeps.flow active holds handled⟩
  select h nodup := by
    refine ⟨h.registry, h.tutorial, nodup, fun flow hf => ?_⟩
    cases Option.some.inj hf
    refine ⟨List.mem_cons_self, .inl ?_⟩
    dsimp only
    rw [h.registry]
    exact keeps.begun _ _
  clear h := ⟨h.registry, h.tutorial, List.nodup_nil, fun _ hf => by cases hf⟩
  observe h := ⟨h.registry, h.tutorial, h.plan, h.flow⟩
  restart h :=
    have anew := sound_anew keeps h.registry
    openTutorial_induction none "AUTH" (anew.settling []) (anew.settling_tutorialMoved keeps)
  reset h := (sound_anew keeps h.registry).settling _

/-- One operation keeps a sound tour sound. -/
theorem Sound.step (keeps : r.Keeps Q) (h : Sound r Q t) (op : Operation) :
    Sound r Q (t.step op).2 :=
  ((kept_settling keeps).step (h.settling []) op).sound

/-- A sound tour stays sound through every run. -/
theorem Sound.run (keeps : r.Keeps Q) (h : Sound r Q t) (ops : List Operation) :
    Sound r Q (t.run ops) :=
  ((kept_settling keeps).run (h.settling []) ops).sound

end Tour

end GuidedTour
