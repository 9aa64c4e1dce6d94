import GuidedTour.Proofs.Flow.Figures
import GuidedTour.Proofs.Tour.Answering

/-! How a tour advances. Whatever has been done, the history of the active flow is the front of a
walk, and on the details of a secrets engine the parameters name one with a branch. So an event
that leads on adds a step and raises the percentage, the percentage is full on the last screen
alone, and from any other screen there is one way there. -/
namespace GuidedTour

namespace Tour

variable {t next : Tour} {flow : Flow} {event : String} {outcome : Outcome}

/-- Entered, and operated on. In between the intents may have been taken, and the session may have
been written down and resumed. A record from elsewhere may list a history that no walk leaves, and
tell nothing of where the flow is. -/
inductive Lived : Tour → Prop where
  | entered : Lived (enter .builtin)
  | operated {t : Tour} (op : Operation) : t.Lived → Lived (t.step op).2
  | drained {t : Tour} : t.Lived → Lived t.takeIntents.2
  | resumed {t next : Tour} : t.Lived → resume .builtin t.session.record = .ok next → Lived next

/-- The plan lists nothing twice, and the parameters fit the screen of the active flow. -/
structure Equipped (t : Tour) : Prop where
  registry : t.registry = .builtin
  plan : t.session.plan.Nodup
  mounted : ∀ flow, t.session.flow = some flow → flow.Mounted t.session.params

theorem Equipped.begin (h : t.Equipped) (f : Feature) : (t.begin f).Equipped := by
  refine ⟨h.registry, h.plan, fun flow hf => ?_⟩
  obtain rfl := Option.some.inj hf
  rw [h.registry]
  exact Flow.begun_mounted f _

theorem Equipped.anew (h : t.Equipped) : t.anew.Equipped :=
  ⟨h.registry, List.nodup_nil, fun _ hf => by cases hf⟩

theorem Equipped.tutorialMoved (h : t.Equipped) (event : String) :
    (t.tutorialMoved event).Equipped :=
  ⟨h.registry, h.plan, h.mounted⟩

theorem kept_equipped : Kept fun _ t => t.Equipped where
  skip _ h := h
  act _ h := ⟨by rw [perform_registry, h.registry], plan_nodup_perform h.plan, fun flow hf => by
    rw [params_of_perform hf]
    exact h.mounted flow (flow_of_perform hf).1⟩
  next {flow f _ahead _rest t} _ _ _ h :=
    Equipped.begin (t := t.markCompleted flow.feature) ⟨h.registry, h.plan, h.mounted⟩ f
  last _ _ h := ⟨h.registry, h.plan, fun _ hf => by cases hf⟩
  nodup h := h.plan
  tutorial h _ := h.tutorialMoved _
  flow {t flow event params} h _ _ handled := by
    refine ⟨h.registry, h.plan, fun after ha => ?_⟩
    obtain rfl := Option.some.inj ha
    rw [h.registry] at handled ⊢
    exact Flow.moved_mounted handled
  select h nodup := by
    refine ⟨h.registry, nodup, fun flow hf => ?_⟩
    obtain rfl := Option.some.inj hf
    dsimp only
    rw [h.registry]
    exact Flow.begun_mounted _ _
  clear h := ⟨h.registry, List.nodup_nil, fun _ hf => by cases hf⟩
  observe h := ⟨h.registry, h.plan, h.mounted⟩
  restart h := openTutorial_induction (I := fun _ t => t.Equipped) none "AUTH" h.anew
    fun _ => h.anew.tutorialMoved _
  reset h := h.anew

/-- A session that was written down and resumed is the session that it was. -/
theorem session_of_resume_record (h : resume .builtin t.session.record = .ok next) :
    next.session = t.session := by
  rw [(resume_eq_ok_iff.1 h).2]
  exact Record.session_record t.session

theorem Lived.sound (h : t.Lived) : Sound .builtin (fun _ flow => flow.Walked) t := by
  induction h with
  | entered => exact sound_enter Flow.keeps_walked
  | operated op _ ih => exact ih.step Flow.keeps_walked op
  | drained _ ih => exact ⟨ih.registry, ih.tutorial, ih.plan, ih.flow⟩
  | resumed _ resumed ih =>
    have same := session_of_resume_record resumed
    exact ⟨registry_of_resume resumed, same ▸ ih.tutorial, same ▸ ih.plan, same ▸ ih.flow⟩

theorem Lived.equipped (h : t.Lived) : t.Equipped := by
  induction h with
  | entered =>
    refine ⟨rfl, ?_, fun flow hf => ?_⟩
    · rw [session_enter]
      exact List.nodup_nil
    · rw [session_enter] at hf
      cases hf
  | operated op _ ih => exact kept_equipped.step ih op
  | drained _ ih => exact ⟨ih.registry, ih.plan, ih.mounted⟩
  | resumed _ resumed ih =>
    have same := session_of_resume_record resumed
    exact ⟨registry_of_resume resumed, same ▸ ih.plan, same ▸ ih.mounted⟩

theorem Lived.walked (h : t.Lived) (hf : t.session.flow = some flow) : flow.Walked :=
  (h.sound.flow flow hf).2

/-- A flow event that is taken, and neither ends the flow nor starts it again nor goes back, adds
a screen. -/
theorem Lived.onto (h : t.Lived) (hf : t.session.flow = some flow) {claim : Option String}
    {given : Option FlowParams} (sent : t.step (.flow claim event given) = (some outcome, next))
    (handled : outcome.handled = true) (onward : event ∉ ["RESET", "REPEAT"])
    (goesOn : outcome.state ≠ "complete") :
    next.session.flow = some (flow.onto outcome.state) ∧ (flow.onto outcome.state).Walked ∧
      flow.percentage < (flow.onto outcome.state).percentage ∧
      next.session.tutorial = t.session.tutorial := by
  have sound := h.sound
  obtain ⟨state, stays⟩ | ⟨flow', next', hf', -, -, taken, moved, comesTo⟩ :=
    step_flow_cases sound.registry sound.plan claim event given
  · rw [sent] at stays
    cases stays
    cases handled
  obtain rfl := Option.some.inj (hf.symm.trans hf')
  obtain ⟨answer, same⟩ := Prod.mk.inj (sent.symm.trans moved)
  obtain rfl := Option.some.inj answer
  subst same
  have move := Machine.mem_moves taken
  rw [sound.registry] at move
  have completes := Registry.completes_iff _ _ move
  dsimp only at completes
  cases comesTo with
  | screen shows =>
    rw [sound.registry] at handled goesOn
    rw [List.mem_cons, List.mem_singleton, not_or] at onward
    obtain ⟨step, walked, raises⟩ := (h.walked hf).onto handled onward.1 onward.2 goesOn
    rw [← sound.registry] at step walked raises
    refine ⟨?_, walked, raises, (shows_foldl shows).tutorial⟩
    rw [(shows_foldl shows).flow, ← step]
    rfl
  | next last =>
    rw [sound.registry] at last goesOn
    exact absurd (completes.2 last) goesOn
  | last last =>
    rw [sound.registry] at last goesOn
    exact absurd (completes.2 last) goesOn

/-- Sent in turn and without parameters, the events lead the flow to its last screen. Each is
handled, none is sent from the last screen, and none starts the flow again, ends it, or goes
back. -/
def LeadsOn (f : Feature) : Tour → List String → Prop
  | t, [] => ∃ flow ∈ t.session.flow, flow.feature = f ∧ flow.state = Flow.lastScreen f
  | t, event :: rest =>
    (∃ flow ∈ t.session.flow, flow.feature = f ∧ flow.state ≠ Flow.lastScreen f) ∧
      event ∉ Flow.asides ∧ (t.flow event none).1.handled = true ∧
      LeadsOn f (t.flow event none).2 rest

instance decidableLeadsOn (f : Feature) : (t : Tour) → (events : List String) →
    Decidable (LeadsOn f t events)
  | t, [] => inferInstanceAs (Decidable (∃ flow ∈ t.session.flow, _))
  | t, event :: rest =>
    have := decidableLeadsOn f (t.flow event none).2 rest
    inferInstanceAs (Decidable (_ ∧ _ ∧ _ ∧ _))

theorem Lived.existsUnique_event (h : t.Lived) (hf : t.session.flow = some flow)
    (active : t.session.isActive = true) (before : flow.state ≠ Flow.lastScreen flow.feature) :
    ∃! event, event ∉ Flow.asides ∧ (t.flow event none).1.handled = true := by
  have unique := (h.walked hf).existsUnique_event before (h.equipped.mounted flow hf)
  simpa only [flow_fst hf active, h.sound.registry] using unique

/-- The step along the one event that leads on from a screen before the last. -/
theorem Lived.advance (h : t.Lived) (hf : t.session.flow = some flow)
    (active : t.session.isActive = true) (before : flow.state ≠ Flow.lastScreen flow.feature)
    (aside : event ∉ Flow.asides) (handled : (t.flow event none).1.handled = true) :
    ∃ state, (t.flow event none).2.Lived ∧
      (t.flow event none).2.session.flow = some (flow.onto state) ∧
      (flow.onto state).Walked ∧ (t.flow event none).2.session.isActive = true := by
  have goesOn : (t.flow event none).1.state ≠ "complete" := by
    rw [flow_fst hf active, h.sound.registry] at handled ⊢
    exact (h.walked hf).goesOn before aside handled
  have onward : event ∉ ["RESET", "REPEAT"] := by
    intro mem
    refine aside ?_
    obtain rfl | rfl : event = "RESET" ∨ event = "REPEAT" := by simpa using mem
    · decide
    · decide
  have sent : t.step (.flow none event none) =
      (some (t.flow event none).1, (t.flow event none).2) := rfl
  obtain ⟨moved, walked, -, tutorial⟩ := h.onto hf sent handled onward goesOn
  refine ⟨_, h.operated (.flow none event none), moved, walked, ?_⟩
  unfold Session.isActive
  rw [tutorial]
  exact active

-- The induction is on the steps left. A branch that shows on the way can only make them fewer.
theorem Lived.leadsOn (h : t.Lived) (hf : t.session.flow = some flow)
    (active : t.session.isActive = true) :
    ∃ events, (∀ other, t.LeadsOn flow.feature other ↔ other = events) ∧
      events.length ≤ flow.total - flow.history.length ∧
      (¬flow.Undecided → events.length = flow.total - flow.history.length) := by
  induction left : flow.total - flow.history.length using Nat.strong_induction_on
    generalizing t flow with
  | _ left ih =>
    have walked := h.walked hf
    by_cases before : flow.state = Flow.lastScreen flow.feature
    · have complete := walked.length_eq_iff.2 before
      refine ⟨[], fun other => ?_, Nat.zero_le _, fun _ => by rw [List.length_nil]; omega⟩
      cases other with
      | nil => exact iff_of_true ⟨flow, hf, rfl, before⟩ rfl
      | cons event rest =>
        refine iff_of_false (fun leads => ?_) (List.cons_ne_nil _ _)
        obtain ⟨⟨flow', hf', -, notLast⟩, -⟩ := leads
        obtain rfl := Option.some.inj (hf.symm.trans hf')
        exact notLast before
    · obtain ⟨event, ⟨aside, handled⟩, only⟩ := h.existsUnique_event hf active before
      obtain ⟨state, lived, moved, walkedThen, activeThen⟩ :=
        h.advance hf active before aside handled
      have short : flow.history.length < flow.total :=
        Nat.lt_of_le_of_ne walked.length_le (mt walked.length_eq_iff.1 before)
      have longer : (flow.onto state).history.length = flow.history.length + 1 :=
        List.length_append
      obtain ⟨fewer, same⟩ := walked.total_onto walkedThen
      obtain ⟨rest, leads, atMost, exactly⟩ := ih _ (by omega) lived moved activeThen rfl
      refine ⟨event :: rest, fun other => ?_, ?_, fun decided => ?_⟩
      · cases other with
        | nil =>
          refine iff_of_false ?_ (List.cons_ne_nil _ _).symm
          rintro ⟨flow', hf', -, last⟩
          obtain rfl := Option.some.inj (hf.symm.trans hf')
          exact before last
        | cons first others =>
          rw [List.cons.injEq]
          constructor
          · rintro ⟨-, asideToo, handledToo, others⟩
            obtain rfl := only first ⟨asideToo, handledToo⟩
            exact ⟨rfl, (leads _).1 others⟩
          · rintro ⟨rfl, rfl⟩
            exact ⟨⟨flow, hf, rfl, before⟩, aside, handled, (leads _).2 rfl⟩
      · rw [List.length_cons]
        omega
      · obtain ⟨total, decidedThen⟩ := same decided
        have more := exactly decidedThen
        rw [List.length_cons]
        omega

/-- The figures of the active flow. An event that is taken, and neither ends the flow nor starts it
again nor goes back, adds a step and raises the percentage, which is full on the last screen and on
no other. From any other screen one event leads on, and these events lead to the last screen within
the steps left; and with no step to spare, unless the branch of a secrets engine is still open. -/
theorem figures_honest (h : t.Lived) (hf : t.session.flow = some flow)
    (active : t.session.isActive = true) :
    ∃ position, Progress.current t.session.record = some (flow.feature, position) ∧
      (∀ claim event given outcome next,
        t.step (.flow claim event given) = (some outcome, next) → outcome.handled = true →
        event ∉ ["RESET", "REPEAT"] → outcome.state ≠ "complete" →
        ∃ after, Progress.current next.session.record = some (flow.feature, after) ∧
          after.step = position.step + 1 ∧ position.percentage < after.percentage) ∧
      (position.percentage = 100 ↔ flow.state = Flow.lastScreen flow.feature) ∧
      (flow.state ≠ Flow.lastScreen flow.feature →
        (∃! event, event ∉ Flow.asides ∧ (t.flow event none).1.handled = true) ∧
        ∃ events, (∀ other, t.LeadsOn flow.feature other ↔ other = events) ∧
          events.length ≤ position.total - position.step ∧
          (¬flow.Undecided → events.length = position.total - position.step)) := by
  have walked := h.walked hf
  refine ⟨_, walked.current hf, ?_, walked.percentage_eq_iff, fun before => ?_⟩
  · intro claim event given outcome next sent handled onward goesOn
    obtain ⟨moved, walkedThen, raises, -⟩ := h.onto hf sent handled onward goesOn
    exact ⟨_, walkedThen.current moved, List.length_append, raises⟩
  · exact ⟨h.existsUnique_event hf active before, h.leadsOn hf active⟩

/-- On the details of a key and value engine, which the step count does not know yet. -/
def undecided : List Operation :=
  [.restart, .select [.secrets], .flow none "CONTINUE" none,
    .flow none "CONTINUE" (some { mountType := some "kv" })]

/-- The one way to the last screen takes two steps of the four that seem to be left. -/
theorem figures_honest_undecided :
    let t := (enter .builtin).run undecided
    Progress.current t.session.record = some (.secrets, ⟨3, 7, 42⟩) ∧
      (∃ after, Progress.current (t.flow "CONTINUE" none).2.session.record =
        some (.secrets, after) ∧ after.step = 4 ∧ 42 < after.percentage) ∧
      ∀ other, t.LeadsOn .secrets other ↔ other = ["CONTINUE", "CONTINUE"] := by
  intro t
  have lived : t.Lived :=
    (((Lived.entered.operated .restart).operated (.select [.secrets])).operated
      (.flow none "CONTINUE" none)).operated
        (.flow none "CONTINUE" (some { mountType := some "kv" }))
  have facts : t.session.flow = some ⟨.secrets, "details", ["idle", "enable", "details"]⟩ ∧
      t.session.isActive = true ∧
      Progress.current t.session.record = some (.secrets, ⟨3, 7, 42⟩) ∧
      (t.flow "CONTINUE" none).1.handled = true ∧
      (t.flow "CONTINUE" none).1.state ≠ "complete" ∧
      t.LeadsOn .secrets ["CONTINUE", "CONTINUE"] := by
    decide +kernel
  obtain ⟨hf, active, figures, handled, goesOn, leads⟩ := facts
  obtain ⟨position, shown, raises, -, ways⟩ := figures_honest lived hf active
  obtain rfl : position = ⟨3, 7, 42⟩ :=
    congrArg Prod.snd (Option.some.inj (shown.symm.trans figures))
  obtain ⟨-, events, only, -⟩ := ways (by decide)
  have sent : t.step (.flow none "CONTINUE" none) =
      (some (t.flow "CONTINUE" none).1, (t.flow "CONTINUE" none).2) := rfl
  refine ⟨figures, ?_, ?_⟩
  · exact raises none "CONTINUE" none _ _ sent handled (by decide) goesOn
  · rw [(only _).1 leads]
    exact only

end Tour

end GuidedTour
