import GuidedTour.Proofs.Tour.Mirroring
import GuidedTour.Proofs.Tour.Queueing
import GuidedTour.Proofs.Tour.Staleness

/-! What is mounted after a fresh start. The render tree hears of a region only through the intents
that render into it, but a fresh start empties the screen at once and then renders the tutorial and
the feature alone. So whatever step or detail was mounted stays mounted, and is on no screen any
more. Every other operation takes the tree from one screen to the next. -/
namespace GuidedTour

namespace Screen

variable {told : List Action} {region : Region}

/-- The same intents leave a region alike on two screens exactly if they render into it, or it
was alike before. -/
theorem get_foldl_draw_eq_iff (s s' : Screen) :
    (told.foldl draw s).get region = (told.foldl draw s').get region ↔
      told.filterMap (Action.placed? region) ≠ [] ∨ s.get region = s'.get region := by
  rw [get_foldl_draw, get_foldl_draw]
  cases last : (told.filterMap (Action.placed? region)).getLast? with
  | none => simp [List.getLast?_eq_none_iff.1 last]
  | some component =>
    have rendered : told.filterMap (Action.placed? region) ≠ [] := by
      intro nothing
      rw [nothing] at last
      cases last
    simp [rendered]

end Screen

def Action.sparesDetail : Action → Bool
  | render .detail component => component.isNone
  | _ => true

theorem Registry.actions_spare : ∀ action ∈ builtin.actions, action.sparesDetail = true := by
  decide +kernel

namespace Tour

variable {t : Tour} {op : Operation}

section Anew

variable (anew : op = .restart ∨ op = .reset)
include anew

/-- The screen after a fresh start is what its intents render on an empty one. -/
theorem screen_anew (nodup : t.session.plan.Nodup) : (t.step op).2.session.screen =
    (t.step op).2.intents.foldl Screen.draw .empty := by
  obtain ⟨told, tells⟩ := tells_step nodup op
  have outset : t.outset op = t.anew := by
    obtain rfl | rfl := anew <;> rfl
  rw [outset] at tells
  rw [tells.intents]
  exact tells.screen

/-- Over any registry a region is right after a fresh start if it is rendered, or was empty. -/
theorem drawn_anew_get_iff (nodup : t.session.plan.Nodup) (mounted : Screen) (region : Region) :
    ((t.step op).2.intents.foldl Screen.draw mounted).get region =
        (t.step op).2.session.screen.get region ↔
      (t.step op).2.intents.filterMap (Action.placed? region) ≠ [] ∨
        mounted.get region = none := by
  rw [screen_anew anew nodup, Screen.get_foldl_draw_eq_iff, Screen.get_empty]

theorem placed_anew_iff (registry : t.registry = .builtin) (region : Region) :
    (t.step op).2.intents.filterMap (Action.placed? region) ≠ [] ↔
      region = .tutorial ∨ region = .feature := by
  obtain rfl | rfl := anew
  · rw [intents_of_restart registry]
    cases region <;> decide
  · rw [intents_of_reset registry]
    cases region <;> decide

theorem drawn_anew_get (registry : t.registry = .builtin) (nodup : t.session.plan.Nodup)
    (mounted : Screen) (region : Region) :
    ((t.step op).2.intents.foldl Screen.draw mounted).get region =
        (t.step op).2.session.screen.get region ↔
      region = .tutorial ∨ region = .feature ∨ mounted.get region = none := by
  rw [drawn_anew_get_iff anew nodup, placed_anew_iff anew registry, or_assoc]

theorem drawn_anew (registry : t.registry = .builtin) (nodup : t.session.plan.Nodup)
    (mounted : Screen) :
    (t.step op).2.intents.foldl Screen.draw mounted = (t.step op).2.session.screen ↔
      mounted.step = none ∧ mounted.detail = none := by
  have regions := drawn_anew_get anew registry nodup mounted
  constructor
  · intro same
    rw [same] at regions
    have step : mounted.get .step = none := by simpa using (regions .step).1 rfl
    have detail : mounted.get .detail = none := by simpa using (regions .detail).1 rfl
    exact ⟨step, detail⟩
  · rintro ⟨step, detail⟩
    refine Screen.ext_get fun region => (regions region).2 ?_
    cases region with
    | tutorial => exact .inl rfl
    | feature => exact .inr (.inl rfl)
    | step => exact .inr (.inr step)
    | detail => exact .inr (.inr detail)

theorem news_anew : t.news op = (t.step op).2.intents := by
  obtain rfl | rfl := anew <;> rfl

end Anew

/-- An operation that is no fresh start renders all that becomes different on the screen. -/
theorem draw_news (nodup : t.session.plan.Nodup) (carriesOn : op ≠ .restart ∧ op ≠ .reset) :
    (t.news op).foldl Screen.draw t.session.screen = (t.step op).2.session.screen := by
  obtain ⟨told, tells⟩ := tells_step nodup op
  have intents : (t.outset op).intents = t.intents ∧
      (t.outset op).session.screen = t.session.screen := by
    cases op with
    | restart => exact absurd rfl carriesOn.1
    | reset => exact absurd rfl carriesOn.2
    | _ => exact ⟨rfl, rfl⟩
  have queued := tells.intents
  rw [intents.1, t.intents_step carriesOn] at queued
  rw [tells.screen, intents.2, List.append_cancel_left queued]

/-- What is mounted after a run, if every intent is taken in time and drawn. -/
def drawn (t : Tour) (ops : List Operation) : Screen :=
  (t.newsOf ops).foldl Screen.draw t.session.screen

theorem drawn_concat (t : Tour) (ops : List Operation) (op : Operation) :
    t.drawn (ops ++ [op]) = ((t.run ops).news op).foldl Screen.draw (t.drawn ops) := by
  unfold drawn
  rw [newsOf_append, List.foldl_append, newsOf_cons, newsOf_nil, List.append_nil]

section Detail

variable {actions : List Action}

/-- Nothing stands in the region of details, and nothing that is to be performed mounts there. -/
structure Undetailed (actions : List Action) (t : Tour) : Prop where
  registry : t.registry = .builtin
  plan : t.session.plan.Nodup
  bare : t.session.screen.detail = none
  spares : ∀ action ∈ actions, action.sparesDetail = true

theorem detail_perform {action : Action} (spares : action.sparesDetail = true)
    (bare : t.session.screen.detail = none) :
    (t.perform action).session.screen.detail = none := by
  cases action with
  | render region component =>
    cases region with
    | detail => exact Option.isNone_iff_eq_none.1 spares
    | _ => exact bare
  | handleResume =>
    unfold perform
    dsimp only
    split <;> exact bare
  | _ => exact bare

theorem spares_of_asked {r : Registry} (registry : r = .builtin) {actions : List Action}
    (asked : actions ⊆ r.actions) : ∀ action ∈ actions, action.sparesDetail = true :=
  fun action mem => Registry.actions_spare action (registry ▸ asked mem)

theorem Undetailed.tutorialMoved (h : Undetailed actions t) (event : String) :
    Undetailed (t.tutorialOutcome event).actions (t.tutorialMoved event) :=
  ⟨h.registry, h.plan, h.bare, spares_of_asked h.registry (t.asked_tutorialOutcome event)⟩

theorem undetailed_anew (registry : t.registry = .builtin) (actions : List Action)
    (spares : ∀ action ∈ actions, action.sparesDetail = true) : Undetailed actions t.anew :=
  ⟨registry, List.nodup_nil, rfl, spares⟩

theorem undetailed_entering (registry : t.registry = .builtin) :
    Undetailed (t.registry.tutorial.entryActions t.registry.tutorial.initial) t.anew :=
  undetailed_anew registry _ (spares_of_asked registry t.registry.asked_entry)

theorem kept_undetailed : Kept Undetailed where
  skip _ h := ⟨h.registry, h.plan, h.bare, (List.forall_mem_cons.1 h.spares).2⟩
  act _ h := by
    obtain ⟨first, rest⟩ := List.forall_mem_cons.1 h.spares
    exact ⟨(perform_registry _ _).trans h.registry, plan_nodup_perform h.plan,
      detail_perform first h.bare, rest⟩
  next _ _ _ h :=
    ⟨h.registry, h.plan, h.bare, List.forall_mem_append.2
      ⟨spares_of_asked h.registry (Registry.asked_begin _ _), (List.forall_mem_cons.1 h.spares).2⟩⟩
  last _ _ h :=
    ⟨h.registry, h.plan, h.bare, List.forall_mem_append.2
      ⟨spares_of_asked h.registry (asked_tutorialOutcome _ "DONE"),
        (List.forall_mem_cons.1 h.spares).2⟩⟩
  nodup h := h.plan
  tutorial h _ := h.tutorialMoved _
  flow h _ _ _ := ⟨h.registry, h.plan, h.bare, spares_of_asked h.registry (Flow.asked_answer _ _ _ _)⟩
  select h nodup := ⟨h.registry, nodup, h.bare, spares_of_asked h.registry (Registry.asked_begin _ _)⟩
  clear h := ⟨h.registry, List.nodup_nil, h.bare, h.spares⟩
  observe h := ⟨h.registry, h.plan, h.bare, h.spares⟩
  restart h :=
    openTutorial_induction none "AUTH" (undetailed_anew h.registry [] (List.forall_mem_nil _))
      fun _ => (undetailed_anew h.registry [] (List.forall_mem_nil _)).tutorialMoved "AUTH"
  reset h := undetailed_entering h.registry

/-- Only a written session can have a detail on its screen. -/
theorem detail_run_enter (ops : List Operation) :
    ((enter .builtin).run ops).session.screen.detail = none := by
  have entered : Undetailed [] (enter .builtin) :=
    kept_undetailed.performAll List.nodup_nil
      (undetailed_entering (t := ⟨.builtin, .fresh .builtin, []⟩) rfl)
  exact (kept_undetailed.run entered ops).bare

end Detail

/-- While intents are taken in time and drawn, the tree shows the screen, as long as no fresh start
comes while a step is mounted. -/
theorem drawn_run_enter (ops : List Operation)
    (bare : ∀ before op after, ops = before ++ op :: after → op = .restart ∨ op = .reset →
      ((enter .builtin).run before).session.screen.step = none) :
    (enter .builtin).drawn ops = ((enter .builtin).run ops).session.screen := by
  induction ops using List.reverseRecOn with
  | nil =>
    unfold drawn
    rw [newsOf_nil, List.foldl_nil, run_nil]
  | append_singleton ops op ih =>
    have sound := sound_run_enter ops
    have before := ih fun before op' after split =>
      bare before op' (after ++ [op]) (by rw [split, List.append_assoc]; rfl)
    rw [drawn_concat, before, run_append, run_cons, run_nil]
    by_cases anew : op = .restart ∨ op = .reset
    · rw [news_anew anew]
      exact (drawn_anew anew sound.registry sound.plan _).2
        ⟨bare ops op [] rfl anew, detail_run_enter ops⟩
    · exact draw_news sound.plan (not_or.1 anew)

/-- Which regions are right after a fresh start, if every intent before was drawn. The tutorial and
the feature are. The step and the detail are exactly if nothing was mounted there, and a detail
never is in a session that began anew. -/
theorem drawn_anew_iff (reached : t.Reachable) (anew : op = .restart ∨ op = .reset) :
    let mounted := t.session.screen
    let next := (t.step op).2
    let shown := next.intents.foldl Screen.draw mounted
    (∀ region, shown.get region = next.session.screen.get region ↔
      region = .tutorial ∨ region = .feature ∨ mounted.get region = none) ∧
    (shown = next.session.screen ↔ mounted.step = none ∧ mounted.detail = none) ∧
    ((∃ ops, t = (enter .builtin).run ops) → mounted.detail = none) := by
  intro mounted next shown
  have sound := reached.sound
  refine ⟨drawn_anew_get anew sound.registry sound.plan mounted,
    drawn_anew anew sound.registry sound.plan mounted, ?_⟩
  rintro ⟨ops, rfl⟩
  exact detail_run_enter ops

/-- Nothing is left behind by starting over twice. -/
theorem drawn_anew_again :
    let t := (enter .builtin).run [.restart]
    let next := (t.step .reset).2
    next.intents.foldl Screen.draw t.session.screen = next.session.screen := by
  intro t next
  have reached : t.Reachable := ⟨_, [.restart], .inl rfl, rfl⟩
  have session : t.session = restartedSession :=
    session_of_restart (sound_run_enter []).registry
  refine (drawn_anew_iff reached (.inr rfl)).2.1.2 ?_
  rw [session]
  exact ⟨rfl, rfl⟩

/-- Started over on the first screen of a flow. All was drawn before, and the step stays. -/
theorem drawn_anew_mounted :
    let ops := [.restart, .select [.authentication]]
    let t := (enter .builtin).run ops
    let next := (t.step .restart).2
    let shown := next.intents.foldl Screen.draw t.session.screen
    (enter .builtin).drawn ops = t.session.screen ∧ shown.step = some "auth-idle" ∧
      next.session.screen.step = none := by
  decide +kernel

end Tour

end GuidedTour
