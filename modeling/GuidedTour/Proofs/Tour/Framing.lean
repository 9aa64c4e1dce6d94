import GuidedTour.Proofs.Tour.Completing
import GuidedTour.Proofs.Tour.Visibility

/-! Each operation keeps to its part of the session. The tutorial's events leave the features
alone, or drop them as a whole when the tour is dismissed or its initialization ends. Events of
a flow and selections leave the tutorial alone, but for the one event that each may send on:
`DONE` after the last planned flow, and `CONTINUE` to a tutorial that waits for the selection. -/
namespace GuidedTour

open Flow.Tutorial (isInitializing)

namespace Registry

/-- The moves that drop what was chosen lead into a dismissal, or out of the initialization by
its own event. An active tutorial that is sent on only shows that it is. -/
theorem moves_of_parts : ∀ move ∈ builtin.tutorial.moves,
    ((∀ action ∈ move.answer.actions, action.isCalm = true) ↔
      ¬(move.answer.state = "dismissed" ∨
        move.event = "INITDONE" ∧ isInitializing move.source = true)) ∧
    (move.event ∈ ["DONE", "CONTINUE"] → "active.".toList.isPrefixOf move.source.toList = true →
      ∀ action ∈ move.answer.actions, action.isIntent = true) := by
  decide +kernel

theorem continue_leads :
    (builtin.tutorial.transition "active.select" "CONTINUE" {}).state = "active.feature" := by
  decide +kernel

end Registry

/-- The flow and its features: all that a selection sets and flow events move. -/
def Record.chosen (r : Record) :
    Option Feature × Option String × List String × List Feature × FlowParams :=
  (r.machine, r.state, r.history, r.plan, r.params)

namespace Tour

variable {t next : Tour} {flow : Flow} {actions : List Action} {event : String}

theorem chosen_perform {action : Action} (ne : action ≠ .completeFeature) :
    (t.perform action).session.record.chosen =
      if action.isCalm = true then t.session.record.chosen else (none, none, [], [], {}) := by
  cases action with
  | completeFeature => exact absurd rfl ne
  | handleResume => unfold perform; dsimp only; split <;> rfl
  | _ => rfl

theorem chosen_foldl (plain : .completeFeature ∉ actions) :
    (actions.foldl perform t).session.record.chosen =
      if ∀ action ∈ actions, action.isCalm = true then t.session.record.chosen
      else (none, none, [], [], {}) := by
  induction actions generalizing t with
  | nil => simp
  | cons action rest ih =>
    rw [List.mem_cons, not_or] at plain
    rw [List.foldl_cons, ih plain.2, chosen_perform (Ne.symm plain.1)]
    by_cases calm : action.isCalm = true <;> simp [calm]

/-- The tutorial takes the event into a dismissal, or out of the initialization by its own. -/
def Drops (t : Tour) (claim : Option String) (event : String) : Prop :=
  ∃ outcome ∈ (t.step (.tutorial claim event)).1, outcome.handled = true ∧
    (outcome.state = "dismissed" ∨
      event = "INITDONE" ∧ isInitializing t.session.tutorial = true)

theorem chosen_step_tutorial (registry : t.registry = .builtin) (claim : Option String)
    (event : String) :
    let after := (t.step (.tutorial claim event)).2.session.record
    (¬t.Drops claim event → after.chosen = t.session.record.chosen) ∧
      (t.Drops claim event → after.chosen = (none, none, [], [], {})) := by
  intro after
  obtain ⟨state, stays⟩ | ⟨handled, moved⟩ := step_tutorial_cases registry claim event
  · have same : after = t.session.record := by simp only [after, stays]
    refine ⟨fun _ => congrArg _ same, ?_⟩
    rintro ⟨outcome, answered, taken, -⟩
    rw [stays] at answered
    obtain rfl := Option.some.inj answered
    cases taken
  · have move := Machine.mem_moves handled
    rw [registry] at move
    have drops : t.Drops claim event ↔ ¬∀ action ∈ (t.tutorialOutcome event).actions,
        action.isCalm = true := by
      have dropping := (Registry.moves_of_parts _ move).1
      rw [← registry] at dropping
      unfold Drops
      rw [moved]
      simp only [Option.mem_def, Option.some.injEq, exists_eq_left', handled, true_and]
      exact (not_congr dropping).trans not_not |>.symm
    have plain := Registry.tutorial_moves _ move
    rw [← registry] at plain
    have chosen := chosen_foldl (t := t.tutorialMoved event) plain
    simp only [after, moved, drops, not_not]
    refine ⟨fun calm => ?_, fun dropped => ?_⟩
    · exact chosen.trans (if_pos calm)
    · exact chosen.trans (if_neg dropped)

/-- Who sees the tour, and where a pause would resume. -/
def hidden (t : Tour) : Bool × Option Route :=
  (t.session.shownBeforeLogin, t.session.resumeRoute)

theorem hidden_perform {action : Action} (h : action.isIntent = true) (t : Tour) :
    (t.perform action).hidden = t.hidden := by
  cases action with
  | render region component => rfl
  | navigate route => rfl
  | _ => cases h

theorem hidden_tutorial (registry : t.registry = .builtin) (active : t.session.isActive = true)
    (h : event ∈ ["DONE", "CONTINUE"]) : (t.tutorial event).2.hidden = t.hidden := by
  obtain ⟨-, stays⟩ | ⟨-, answer, move, moved⟩ := tutorial_cases registry event
  · rw [stays]
  · have shows := (Registry.moves_of_parts _ move).2 h active
    rw [moved]
    exact foldl_perform_eq hidden (fun t action mem => hidden_perform (shows action mem) t) _

/-- An event of a flow and a selection send the tutorial on only if it is active. -/
theorem hidden_step (sound : Sound .builtin (fun _ _ => True) t) {op : Operation}
    (h : (∃ claim event given, op = .flow claim event given) ∨
      ∃ features, op = .select features) :
    (t.step op).2.hidden = t.hidden := by
  have carriesOn : op ≠ .restart ∧ op ≠ .reset := by
    obtain ⟨_, _, _, rfl⟩ | ⟨_, rfl⟩ := h <;> simp
  have sendsOn : ∀ event, t.Sends op event →
      t.session.isActive = true ∧ event ∈ ["DONE", "CONTINUE"] := by
    intro event sends
    cases sends with
    | tutorial => simp at h
    | dismiss => simp at h
    | complete active => exact ⟨active, by decide⟩
    | select selecting =>
      unfold Session.isActive
      rw [selecting]
      decide
  obtain ⟨next, aside, same | ⟨event, sends, sent⟩⟩ :=
    step_aside sound.registry sound.plan carriesOn
  · rw [same]
    exact Prod.ext aside.shown aside.resumeRoute
  · obtain ⟨active, on⟩ := sendsOn event sends
    have activeStill : next.session.isActive = true := by
      unfold Session.isActive
      rw [aside.tutorial]
      exact active
    rw [sent, hidden_tutorial (aside.registry.trans sound.registry) activeStill on]
    exact Prod.ext aside.shown aside.resumeRoute

/-- The event completes the flow that the plan lists last. -/
def EndsPlan (t : Tour) (op : Operation) : Prop :=
  t.Completes op ∧ t.session.record.plan.getLast? = t.session.record.machine

theorem endsPlan_iff (sound : Sound .builtin (fun _ _ => True) t) {op : Operation}
    (hf : t.session.flow = some flow) (completes : t.Completes op) :
    t.EndsPlan op ↔ t.nextFeature = none := by
  unfold EndsPlan nextFeature
  rw [(Session.record_of_flow hf).1, ahead_of_flow hf, List.head?_eq_none_iff]
  have last := getLast?_eq_iff_featuresAfter sound.plan (sound.flow flow hf).1
  exact (and_iff_right completes).trans last

/-- A flow event leaves the plan alone, and the tutorial unless it completes the last of it. -/
theorem flow_keeps (sound : Sound .builtin (fun _ _ => True) t) (claim : Option String)
    (event : String) (given : Option FlowParams) :
    let op := Operation.flow claim event given
    let after := (t.step op).2.session
    after.plan = t.session.plan ∧ (¬t.EndsPlan op → after.tutorial = t.session.tutorial) ∧
      (t.EndsPlan op → t.session.isActive = true ∧ after.tutorial = "complete") := by
  intro op after
  obtain ⟨goesOn, -, plan, tutorial⟩ | ⟨flow, hf, active, completes, counted⟩ :=
    step_flow_completed sound claim event given
  · exact ⟨plan, fun _ => tutorial, fun ends => absurd ends.1 goesOn⟩
  rw [endsPlan_iff sound hf completes]
  refine ⟨counted.plan, fun more => ?_, fun none => ⟨active, (counted.ends none).2⟩⟩
  obtain ⟨f, planned⟩ := Option.ne_none_iff_exists'.1 more
  exact (counted.goesOn f planned).2.2

/-- A selection sends on a tutorial that waits for it, unless it selects nothing. -/
theorem tutorial_select (registry : t.registry = .builtin) (features : List Feature) :
    (t.step (.select features)).2.session.tutorial =
      if features ≠ [] ∧ t.session.tutorial = "active.select" then "active.feature"
      else t.session.tutorial := by
  have aside := aside_opened_select registry features
  have continues : (t.opened (.select features)).Continues (.select features) ↔
      features ≠ [] ∧ t.session.tutorial = "active.select" := by
    unfold Continues
    rw [aside.tutorial]
  rw [step_eq]
  simp only [continues]
  split
  · rename_i waits
    have same := aside.registry.trans registry
    rw [← tutorialFrom_eq]
    refine (tutorial_tutorial same "CONTINUE").trans ?_
    unfold tutorialOutcome
    rw [same, aside.tutorial, waits.2]
    exact Registry.continue_leads
  · exact aside.tutorial

/-- An event of the tutorial leaves alone what is completed, and the chosen features with the
active flow unless it drops them. A flow event leaves alone the plan, who sees the tour and where
it would resume; it moves the tutorial only from an active state to its end, with the last planned
flow. A selection leaves alone what is completed, who sees the tour and where it would resume; it
moves the tutorial only from the selection to the features. Observing a route records it and
nothing else. -/
theorem operations_keep_to_their_part (h : t.Reachable) :
    let before := t.session.record
    (∀ claim event,
      let after := (t.step (.tutorial claim event)).2.session.record
      (¬t.Drops claim event → after.chosen = before.chosen) ∧
        (t.Drops claim event → after.chosen = (none, none, [], [], {})) ∧
        after.completed = before.completed) ∧
    (∀ claim event given,
      let op := Operation.flow claim event given
      let after := (t.step op).2.session.record
      after.plan = before.plan ∧ after.shownBeforeLogin = before.shownBeforeLogin ∧
        after.resumeRoute = before.resumeRoute ∧
        (¬t.EndsPlan op → after.tutorial = before.tutorial) ∧
        (t.EndsPlan op → t.session.isActive = true ∧ after.tutorial = "complete")) ∧
    (∀ features,
      let after := (t.step (.select features)).2.session.record
      after.completed = before.completed ∧
        after.shownBeforeLogin = before.shownBeforeLogin ∧
        after.resumeRoute = before.resumeRoute ∧
        after.tutorial =
          if features ≠ [] ∧ before.tutorial = "active.select" then "active.feature"
          else before.tutorial) ∧
    ∀ route, (t.step (.observe route)).2 = { t with session.route := some route } := by
  intro before
  have sound := h.sound
  have registry := sound.registry
  refine ⟨fun claim event => ?_, fun claim event given => ?_, fun features => ?_,
    fun route => rfl⟩
  · obtain ⟨kept, dropped⟩ := chosen_step_tutorial registry claim event
    refine ⟨kept, dropped, ?_⟩
    change (t.step (.tutorial claim event)).2.session.completed = t.session.completed
    rw [step_tutorial]
    split
    · exact completed_tutorial registry event
    · rfl
  · have hidden := hidden_step sound (.inl ⟨claim, event, given, rfl⟩)
    obtain ⟨plan, stays, ends⟩ := flow_keeps sound claim event given
    exact ⟨plan, congrArg Prod.fst hidden, congrArg Prod.snd hidden, stays, ends⟩
  · have hidden := hidden_step sound (.inr ⟨features, rfl⟩)
    exact ⟨completed_select registry features, congrArg Prod.fst hidden,
      congrArg Prod.snd hidden, tutorial_select registry features⟩

/-- A pause keeps policies, the last of the plan, and a dismissal drops them; `DONE` ends them and
the tour. Another selection keeps the features completed before. -/
theorem operations_keep_to_their_part_returning :
    let t := (enter .builtin).run returning
    let paused := (t.step (.tutorial none "PAUSE")).2
    let dismissed := (t.step (.tutorial none "DISMISS")).2
    let done := (t.step (.flow none "DONE" none)).2
    let chosen := (t.step (.select [.secrets])).2
    t.Reachable ∧ t.session.record.machine = some .policies ∧
      paused.session.record.chosen = t.session.record.chosen ∧
      dismissed.session.record.chosen = (none, none, [], [], {}) ∧
      done.session.record.plan = [.tools, .policies] ∧
      done.session.record.tutorial = "complete" ∧
      chosen.session.record.completed = .ofList [.policies, .tools] ∧
      (t.step (.observe ⟨"vault", []⟩)).2 = { t with session.route := some ⟨"vault", []⟩ } := by
  intro t paused dismissed done chosen
  have reached : t.Reachable := ⟨_, returning, .inl rfl, rfl⟩
  have answers : (t.step (.tutorial none "PAUSE")).1.map (·.state) = some "paused" ∧
      (t.step (.tutorial none "DISMISS")).1.map (fun o => (o.handled, o.state)) =
        some (true, "dismissed") ∧
      (t.step (.flow none "DONE" none)).1 = some ⟨"complete", [.completeFeature], true⟩ ∧
      t.session.record.machine = some .policies ∧
      t.session.record.plan = [.tools, .policies] ∧
      t.session.record.completed = .ofList [.policies, .tools] := by
    decide +kernel
  obtain ⟨pauses, dismisses, answered, machine, plan, counted⟩ := answers
  obtain ⟨tutorial, flow, select, observe⟩ := operations_keep_to_their_part reached
  have keeps : ¬t.Drops none "PAUSE" := by
    rintro ⟨outcome, answer, -, drops⟩
    rw [Option.mem_def.1 answer] at pauses
    have same := Option.some.inj pauses
    obtain ended | ⟨other, -⟩ := drops
    · exact absurd (same.symm.trans ended) (by decide)
    · exact absurd other (by decide)
  have drops : t.Drops none "DISMISS" := by
    obtain ⟨outcome, answer, same⟩ := Option.map_eq_some_iff.1 dismisses
    obtain ⟨handled, state⟩ := Prod.ext_iff.1 same
    exact ⟨outcome, answer, handled, .inl state⟩
  have ends : t.EndsPlan (.flow none "DONE" none) := by
    refine ⟨⟨none, "DONE", none, _, rfl, answered, rfl, rfl⟩, ?_⟩
    rw [machine, plan]
    rfl
  refine ⟨reached, machine, (tutorial none "PAUSE").1 keeps, (tutorial none "DISMISS").2.1 drops,
    (flow none "DONE" none).1.trans plan, ((flow none "DONE" none).2.2.2.2 ends).2,
    (select [.secrets]).1.trans counted, observe _⟩

end Tour

end GuidedTour
