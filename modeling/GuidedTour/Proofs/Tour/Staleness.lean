import GuidedTour.Proofs.Tour.Answering

/-! Stale flow events. An event claims the state in which its sender saw the active flow. If
another event has ended that flow, the claim is held against the flow that follows it, and the
name of a state does not say whose state it is. So the late event does nothing unless both
flows have a state of that name: only a flow that ends on its first screen, `idle`, is followed
by another one in the state it was in. -/
namespace GuidedTour

namespace Registry

/-- A flow that is completed in a state where another one begins is completed on `idle`, and by
`DONE`. What a first screen of that name takes, it takes without a guard. -/
theorem first_screens (f : Feature) : (∀ move ∈ (builtin.flow f).moves,
      (move.answer.actions = [.completeFeature] → ∀ g, g ≠ f →
        move.source = (builtin.flow g).initial → move.source = "idle" ∧ move.event = "DONE") ∧
      (move.source = "idle" → move.event ∈ ["CONTINUE", "RESET", "DONE"])) ∧
    ((builtin.flow f).initial = "idle" → ∀ event ∈ ["CONTINUE", "RESET", "DONE"],
      ((builtin.flow f).transition "idle" event {}).handled = true ∧
        ∃ edge ∈ (builtin.flow f).firstEdge? "idle" event, edge.guard = .always) := by
  cases f <;> decide +kernel

theorem completing_moves (f : Feature) : ∀ move ∈ (builtin.flow f).moves,
    move.answer.actions = [.completeFeature] → ∀ g, g ≠ f →
      move.source = (builtin.flow g).initial → move.source = "idle" ∧ move.event = "DONE" :=
  fun move mem => ((first_screens f).1 move mem).1

end Registry

namespace Flow

/-- What is handled on a first screen named `idle` depends on no parameters. -/
theorem handled_begun_iff {f : Feature} (idle : (begun .builtin f).state = "idle")
    {event : String} {params : FlowParams} :
    ((begun .builtin f).answer .builtin event params).handled = true ↔
      event ∈ ["CONTINUE", "RESET", "DONE"] := by
  constructor
  · intro handled
    exact ((Registry.first_screens f).1 _ (Machine.mem_moves handled)).2 idle
  · intro mem
    -- The edge tried first has no guard, so it is taken whatever the context.
    obtain ⟨handled, edge, first, always⟩ := (Registry.first_screens f).2 idle event mem
    have holds : ∀ ctx, edge.guard.holds ctx = true := by
      intro ctx
      rw [always]
      rfl
    have same := Machine.transition_of_firstEdge? first
      (holds ⟨some params, (begun .builtin f).history⟩) (holds {})
    unfold answer
    rw [idle]
    exact same ▸ handled

end Flow

namespace Tour

variable {t next : Tour} {flow : Flow}

/-- A flow event does nothing exactly if its claim is wrong or the flow has no answer. -/
theorem flowFrom_eq_unhandled_iff (hf : t.session.flow = some flow)
    (active : t.session.isActive = true) {claim event : String} {given : Option FlowParams} :
    t.flowFrom claim event given = (.unhandled claim, t) ↔ ¬(claim = flow.state ∧
      (flow.answer t.registry event (given.getD t.session.params)).handled = true) := by
  constructor
  · intro nothing taken
    have handled := handled_flowFrom_iff.2 ⟨flow, hf, active, taken.1, taken.2⟩
    rw [nothing] at handled
    cases handled
  · intro wrong
    refine flowFrom_ignores fun other listens => wrong ?_
    obtain rfl := Option.some.inj (hf.symm.trans listens.running)
    exact ⟨listens.claimed, listens.handled⟩

theorem flow_none_foldl (h : t.session.flow = none) (actions : List Action) :
    (actions.foldl perform t).session.flow = none := by
  induction actions generalizing t with
  | nil => exact h
  | cons action rest ih => exact ih (flow_none_perform h)

theorem flow_none_tutorial (registry : t.registry = .builtin) (h : t.session.flow = none)
    (event : String) : (t.tutorial event).2.session.flow = none := by
  obtain ⟨-, stays⟩ | ⟨-, answer, -, moved⟩ := tutorial_cases registry event
  · rw [stays, h]
  · rw [moved]
    exact flow_none_foldl (t := { t with session.tutorial := answer.state }) h _

/-- Another flow is active after an event only if the event completed the flow before, by
the one action of its answer, and the planned flow began that follows it. -/
theorem Taken.of_other {event : String} {params : FlowParams} {other : Flow}
    (h : t.Taken flow event params next) (registry : t.registry = .builtin)
    (hf : next.session.flow = some other) (ne : other.feature ≠ flow.feature) :
    (flow.answer t.registry event params).actions = [.completeFeature] ∧
      other = .begun .builtin other.feature ∧ t.Aside next := by
  cases h with
  | screen shows =>
    have stays : _ = (t.flowMoved flow event params).session.flow := (shows_foldl shows).flow
    rw [stays] at hf
    obtain rfl := Option.some.inj hf
    exact absurd rfl ne
  | @next f completes =>
    have began : t.Aside (((t.flowMoved flow event params).markCompleted flow.feature).begin f) :=
      ⟨rfl, rfl, rfl, rfl, rfl⟩
    have goesOn := shows_begin (t := ((t.flowMoved flow event params).markCompleted
      flow.feature).begin f) registry f
    rw [goesOn.flow] at hf
    obtain rfl := Option.some.inj hf
    refine ⟨completes, ?_, began.trans goesOn.toAside⟩
    rw [← registry]
    rfl
  | last completes =>
    have ends := flow_none_tutorial
      (t := ((t.flowMoved flow event params).markCompleted flow.feature).withoutFlow)
      registry rfl "DONE"
    rw [ends] at hf
    cases hf

/-- Entered or resumed, and then run. -/
def Reachable (t : Tour) : Prop :=
  ∃ start ops, (start = enter .builtin ∨ ∃ record, resume .builtin record = .ok start) ∧
    t = start.run ops

theorem Reachable.sound (h : t.Reachable) : Sound .builtin (fun _ _ => True) t := by
  have keeps : Registry.builtin.Keeps fun _ _ => True :=
    ⟨Flow.keeps_walked.initial, fun _ _ => trivial, fun _ _ => trivial, fun _ _ _ => .inl trivial⟩
  obtain ⟨start, ops, rfl | ⟨record, resumed⟩, rfl⟩ := h
  · exact (sound_enter keeps).run keeps ops
  · exact (sound_of_fits (registry_of_resume resumed) (fits_of_resume resumed)
      fun _ _ => trivial).run keeps ops

/-- What an event comes to that makes another flow active: the next flow has just begun, the
tutorial is active still, and the event completed the flow before. -/
theorem Reachable.of_other (h : t.Reachable) (hf : t.session.flow = some flow) {event : String}
    {given : Option FlowParams} {other : Flow}
    (ended : (t.flowFrom flow.state event given).2.session.flow = some other)
    (ne : other.feature ≠ flow.feature) :
    (∃ answer, ⟨flow.state, event, answer⟩ ∈ (Registry.builtin.flow flow.feature).moves ∧
      answer.actions = [.completeFeature]) ∧
    other = .begun .builtin other.feature ∧
    (t.flowFrom flow.state event given).2.session.isActive = true ∧
    (t.flowFrom flow.state event given).2.registry = .builtin := by
  have sound := h.sound
  have step : (t.flowFrom flow.state event given).2 = (t.step (.flow none event given)).2 :=
    (flowFrom_eq none event given hf).trans (step_flow_eq t none event given).symm
  rw [step] at ended ⊢
  obtain stays | ⟨flow', hf', active, -, handled, taken⟩ :=
    step_flow sound.registry sound.plan none event given
  · rw [stays, hf] at ended
    obtain rfl := Option.some.inj ended
    exact absurd rfl ne
  · rw [hf] at hf'
    obtain rfl := Option.some.inj hf'
    obtain ⟨completes, began, aside⟩ := taken.of_other sound.registry ended ne
    have goesOn : (t.step (.flow none event given)).2.session.isActive = true := by
      unfold Session.isActive
      rw [aside.tutorial]
      exact active
    rw [sound.registry] at completes handled
    exact ⟨⟨_, Machine.mem_moves handled, completes⟩, began, goesOn,
      aside.registry.trans sound.registry⟩

/-- The event that comes second, in either order of the two, and the same event twice. A claim
that once was right and no longer is makes an event do nothing, unless the flow was left on
a first screen `idle` and the flow that follows begins on another. -/
theorem stale_event_iff (h : t.Reachable) (hf : t.session.flow = some flow)
    (first second : String) (given more : Option FlowParams) {other : Flow}
    (ended : (t.flowFrom flow.state first given).2.session.flow = some other)
    (ne : other.feature ≠ flow.feature) :
    let once := (t.flowFrom flow.state first given).2
    (flow.state = other.state → flow.state = "idle" ∧ first = "DONE") ∧
    (once.flowFrom flow.state second more = (.unhandled flow.state, once) ↔
      ¬(flow.state = "idle" ∧ other.state = "idle" ∧ second ∈ ["CONTINUE", "RESET", "DONE"])) ∧
    (once.flowFrom flow.state first more = (.unhandled flow.state, once) ↔
      ¬(flow.state = "idle" ∧ other.state = "idle")) := by
  intro once
  obtain ⟨⟨answer, move, completes⟩, began, active, registry⟩ := h.of_other hf ended ne
  -- The flow that follows is at its first state, so only a flow that was completed in a state
  -- of that name can be mistaken for it.
  have left : flow.state = other.state → flow.state = "idle" ∧ first = "DONE" := by
    intro same
    rw [began] at same
    exact Registry.completing_moves _ _ move completes _ ne same
  have second (event : String) : once.flowFrom flow.state event more =
      (.unhandled flow.state, once) ↔ ¬(flow.state = "idle" ∧ other.state = "idle" ∧
        event ∈ ["CONTINUE", "RESET", "DONE"]) := by
    rw [flowFrom_eq_unhandled_iff ended active, registry]
    refine not_congr ⟨fun ⟨same, handled⟩ => ?_, fun ⟨idle, begins, mem⟩ => ?_⟩
    · have idle := (left same).1
      have begins := same.symm.trans idle
      refine ⟨idle, begins, ?_⟩
      rw [began] at handled begins
      exact (Flow.handled_begun_iff begins).1 handled
    · refine ⟨idle.trans begins.symm, ?_⟩
      rw [began] at begins ⊢
      exact (Flow.handled_begun_iff begins).2 mem
  refine ⟨left, second _, (second first).trans (not_congr ?_)⟩
  refine ⟨fun ⟨idle, begins, _⟩ => ⟨idle, begins⟩, fun ⟨idle, begins⟩ => ⟨idle, begins, ?_⟩⟩
  rw [(left (idle.trans begins.symm)).2]
  decide

/-- A tour of two flows that both begin at `idle`. -/
def alike : List Operation := [.restart, .select [.authentication, .policies]]

/-- A tour of two flows that begin at `idle` and at `wrap`. -/
def unlike : List Operation := [.restart, .select [.authentication, .tools]]

theorem stale_event_unlike :
    let once := (((enter .builtin).run unlike).flowFrom "idle" "DONE" none).2
    once.flowFrom "idle" "DONE" none = (.unhandled "idle", once) := by
  intro once
  have reached : ((enter .builtin).run unlike).Reachable := ⟨_, unlike, .inl rfl, rfl⟩
  have first : ((enter .builtin).run unlike).session.flow =
      some (.begun .builtin .authentication) := by
    decide +kernel
  have ended : (((enter .builtin).run unlike).flowFrom
      (Flow.begun .builtin .authentication).state "DONE" none).2.session.flow =
        some (.begun .builtin .tools) := by
    decide +kernel
  have apart : ¬((Flow.begun .builtin .authentication).state = "idle" ∧
      (Flow.begun .builtin .tools).state = "idle") := by
    decide +kernel
  exact (stale_event_iff reached first "DONE" "DONE" none none ended (by decide)).2.2.2 apart

/-- `DONE` from `idle`, sent once and delivered twice, completes two flows. -/
theorem redelivered_alike :
    let once := (((enter .builtin).run alike).flowFrom "idle" "DONE" none).2
    once.session.flow = some (.begun .builtin .policies) ∧
      (once.flowFrom "idle" "DONE" none).1.handled = true ∧
      ∀ f ∈ [.authentication, .policies],
        (once.flowFrom "idle" "DONE" none).2.session.completed.contains f = true := by
  decide +kernel

end Tour

end GuidedTour
