import GuidedTour.Proofs.Tour.Framing
import GuidedTour.Proofs.Tour.Resumption

/-! What is told of the next step. The preview asks the active flow for its answer, with the
parameters and the history of the moment, and moves nothing. While the tutorial is active, this is
what the event comes to. The tutorial itself is not asked, so the preview goes on through a pause:
what passes a pause by leaves the flow alone, and the flow is taken up where it was left. -/
namespace GuidedTour

/-- An operation that a pause lets pass: an event for a flow, an observed route, or an event that
the paused tutorial does not handle or that claims another state. -/
def Operation.PassesPause : Operation → Prop
  | .tutorial claim event => claim.getD "paused" ≠ "paused" ∨
      (Registry.builtin.tutorial.transition "paused" event {}).handled = false
  | .flow .. | .observe _ => True
  | .select _ | .dismiss | .restart | .reset => False

instance : DecidablePred Operation.PassesPause
  | .tutorial .. => inferInstanceAs (Decidable (_ ∨ _))
  | .flow .. | .observe _ => inferInstanceAs (Decidable True)
  | .select _ | .dismiss | .restart | .reset => inferInstanceAs (Decidable False)

namespace Tour

variable {t u : Tour} {flow : Flow} {event : String}

/-- The event is sent to the flow without parameters, and leads to the state. -/
def Yields (t : Tour) (event state : String) : Prop :=
  (t.flow event none).1.handled = true ∧ (t.flow event none).1.state = state

/-- The next step is where `CONTINUE` leads, or `REPEAT` if `CONTINUE` is not handled. -/
def Previews (t : Tour) : Prop :=
  ∀ state, t.nextStep = some state ↔
    t.Yields "CONTINUE" state ∨
      (t.flow "CONTINUE" none).1.handled = false ∧ t.Yields "REPEAT" state

theorem Previews.yields {state : String} (h : t.Previews)
    (handled : (t.flow "CONTINUE" none).1.handled = true) (next : t.nextStep = some state) :
    t.Yields "CONTINUE" state := by
  refine ((h state).1 next).resolve_right ?_
  rintro ⟨unhandled, -⟩
  rw [handled] at unhandled
  cases unhandled

theorem previews_of_isActive (active : t.session.isActive = true) : t.Previews := by
  intro state
  unfold Yields nextStep
  cases hf : t.session.flow with
  | none => simp [Tour.flow, hf, Outcome.unhandled]
  | some flow =>
    have asked (event : String) : t.flowOutcome flow event t.session.params =
        flow.answer t.registry event t.session.params := rfl
    simp only [flow_fst hf active, asked]
    cases (flow.answer t.registry "CONTINUE" t.session.params).handled with
    | true => simp
    | false => cases (flow.answer t.registry "REPEAT" t.session.params).handled <;> simp

/-- The preview depends on the flow and its parameters alone. -/
theorem nextStep_of_chosen (registry : u.registry = t.registry)
    (chosen : u.session.record.chosen = t.session.record.chosen) : u.nextStep = t.nextStep := by
  have written (s : Session) : s.flow = s.record.session.flow := by rw [Record.session_record]
  simp only [Record.chosen, Prod.mk.injEq] at chosen
  obtain ⟨machine, state, history, -, params⟩ := chosen
  have flow : u.session.flow = t.session.flow := by
    rw [written, written t.session]
    unfold Record.session
    dsimp only
    rw [machine, state, history]
  have given : u.session.params = t.session.params := params
  unfold nextStep flowOutcome
  rw [registry, flow, given]

/-- An event of the tutorial other than `INITDONE` keeps the preview, unless it dismisses. -/
theorem nextStep_tutorial (registry : t.registry = .builtin) (other : event ≠ "INITDONE")
    (lasting : (t.tutorial event).2.session.tutorial ≠ "dismissed") :
    (t.tutorial event).2.nextStep = t.nextStep := by
  have same : (t.tutorial event).2.registry = t.registry := by
    rw [tutorial_snd registry]
    exact foldl_perform_eq Tour.registry (fun t action _ => perform_registry t action) _
  refine nextStep_of_chosen same ((chosen_step_tutorial registry none event).1 ?_)
  rintro ⟨outcome, answered, -, dismissed | ⟨done, -⟩⟩
  · have answer : t.tutorialOutcome event = outcome :=
      (t.tutorial_fst event).symm.trans (Option.some.inj answered)
    exact lasting ((tutorial_tutorial registry event).trans (answer ▸ dismissed))
  · exact other done

theorem step_passesPause (registry : t.registry = .builtin) (nodup : t.session.plan.Nodup)
    (paused : t.session.tutorial = "paused") {op : Operation} (passes : op.PassesPause) :
    ∃ route, (t.step op).2 = { t with session.route := route } := by
  cases op with
  | tutorial claim event =>
    refine ⟨t.session.route, ?_⟩
    rw [step_tutorial]
    split
    · rename_i claimed
      rw [paused] at claimed
      have unhandled := passes.resolve_left (not_not.2 claimed)
      rw [← tutorialOutcome_of_paused registry paused] at unhandled
      obtain ⟨-, same⟩ | ⟨handled, -⟩ := tutorial_cases registry event
      · exact same
      · rw [unhandled] at handled
        cases handled
    · rfl
  | flow claim event given =>
    refine ⟨t.session.route, ?_⟩
    obtain same | ⟨flow, -, active, -⟩ := step_flow registry nodup claim event given
    · exact same
    · exact absurd paused (awake_of_isActive active)
  | observe route => exact ⟨some route, rfl⟩
  | select features => exact passes.elim
  | dismiss => exact passes.elim
  | restart => exact passes.elim
  | reset => exact passes.elim

/-- However long it lasts, what passes a pause by comes to a route. -/
theorem run_passesPause (registry : t.registry = .builtin) (nodup : t.session.plan.Nodup)
    (paused : t.session.tutorial = "paused") {ops : List Operation}
    (passes : ∀ op ∈ ops, op.PassesPause) :
    ∃ route, t.run ops = { t with session.route := route } := by
  induction ops generalizing t with
  | nil => exact ⟨t.session.route, rfl⟩
  | cons op ops ih =>
    obtain ⟨first, rest⟩ := List.forall_mem_cons.1 passes
    obtain ⟨route, stepped⟩ := step_passesPause registry nodup paused first
    rw [run_cons, stepped]
    exact ih registry nodup paused rest

theorem pause_of_active (sound : Sound .builtin (fun _ _ => True) t)
    (active : t.session.isActive = true) :
    (t.tutorial "PAUSE").2.session.tutorial = "paused" ∧
      (t.tutorial "PAUSE").2.nextStep = t.nextStep := by
  have known := Machine.mem_names_of_contains sound.tutorial
  have handled : (t.tutorialOutcome "PAUSE").handled = true := by
    rw [tutorialOutcome_builtin sound.registry]
    exact (Registry.pause_answered _ known).1.2
      ⟨awake_of_isActive active, (Registry.apart_of_active _ known active).2⟩
  obtain ⟨paused, -⟩ := tutorial_pause sound.registry handled sound.tutorial
  refine ⟨paused, nextStep_tutorial sound.registry (by decide) ?_⟩
  rw [paused]
  decide

theorem continue_of_pause (registry : t.registry = .builtin)
    (paused : t.session.tutorial = "paused") :
    (t.tutorial "CONTINUE").2.session.tutorial = "active.feature" ∧
      (t.tutorial "CONTINUE").2.nextStep = t.nextStep := by
  have resumed : (t.tutorial "CONTINUE").2.session.tutorial = "active.feature" := by
    rw [tutorial_tutorial registry, tutorialOutcome_of_paused registry paused]
    exact continue_of_paused.2
  refine ⟨resumed, nextStep_tutorial registry (by decide) ?_⟩
  rw [resumed]
  decide

/-- While the tutorial is active, the next step is where `CONTINUE` would lead, or else `REPEAT`,
over any registry. It stays the same when the tutorial is paused, through all that passes the pause by,
and when the tutorial goes on: then it is where the flow is led indeed. -/
theorem nextStep_previews (active : t.session.isActive = true) :
    t.Previews ∧ (t.Reachable →
      let paused := (t.step (.tutorial none "PAUSE")).2
      paused.session.tutorial = "paused" ∧ paused.nextStep = t.nextStep ∧
      ∀ during, (∀ op ∈ during, op.PassesPause) →
        let later := paused.run during
        let resumed := (later.step (.tutorial none "CONTINUE")).2
        later.session.tutorial = "paused" ∧ later.nextStep = t.nextStep ∧
          resumed.session.tutorial = "active.feature" ∧ resumed.nextStep = t.nextStep ∧
          resumed.Previews) := by
  refine ⟨previews_of_isActive active, fun reached => ?_⟩
  intro paused
  have sound : Sound .builtin (fun _ _ => True) paused := (reached.step _).sound
  obtain ⟨pauses, kept⟩ := pause_of_active reached.sound active
  refine ⟨pauses, kept, fun during passes => ?_⟩
  intro later resumed
  obtain ⟨route, same⟩ := run_passesPause sound.registry sound.plan pauses passes
  have stillPaused : later.session.tutorial = "paused" := by
    simp only [later, same]
    exact pauses
  have stillKept : later.nextStep = t.nextStep := by
    simp only [later, same]
    exact kept
  have registry : later.registry = .builtin := by
    simp only [later, same]
    exact sound.registry
  obtain ⟨goesOn, keptOn⟩ := continue_of_pause registry stillPaused
  exact ⟨stillPaused, stillKept, goesOn, keptOn.trans stillKept,
    previews_of_isActive (isActive_of_feature goesOn)⟩

/-- An operator on the way through the secrets flow, who has chosen an engine. -/
def mounting : List Operation :=
  [.restart, .select [.secrets], .flow none "CONTINUE" none,
    .flow none "CONTINUE" (some { mountType := some "kv" })]

/-- Events for the flow, another route, a second `PAUSE` and a dismissal that comes too late. -/
def meanwhile : List Operation :=
  [.flow none "CONTINUE" (some { mountType := some "database" }),
    .observe ⟨"vault.cluster.access", []⟩, .flow (some "details") "RESET" none,
    .tutorial none "PAUSE", .tutorial (some "active.feature") "DISMISS"]

/-- The engine of before the pause decides on the next step, not the one that is named in between. -/
theorem nextStep_previews_mounting :
    let t := (enter .builtin).run mounting
    let resumed := (((t.step (.tutorial none "PAUSE")).2.run meanwhile).step
      (.tutorial none "CONTINUE")).2
    t.session.isActive = true ∧ t.Reachable ∧ (∀ op ∈ meanwhile, op.PassesPause) ∧
      resumed.nextStep = some "secret" ∧ resumed.Yields "CONTINUE" "secret" := by
  intro t resumed
  have facts : t.session.isActive = true ∧ (∀ op ∈ meanwhile, op.PassesPause) ∧
      t.nextStep = some "secret" ∧ (resumed.flow "CONTINUE" none).1.handled = true := by
    decide +kernel
  obtain ⟨active, passes, preview, handled⟩ := facts
  have reached : t.Reachable := ⟨_, mounting, .inl rfl, rfl⟩
  obtain ⟨-, -, goesOn⟩ := (nextStep_previews active).2 reached
  obtain ⟨-, -, -, kept, tells⟩ := goesOn meanwhile passes
  have same : resumed.nextStep = some "secret" := kept.trans preview
  have previews : resumed.Previews := tells
  exact ⟨active, reached, passes, same, previews.yields handled same⟩

end Tour

end GuidedTour
