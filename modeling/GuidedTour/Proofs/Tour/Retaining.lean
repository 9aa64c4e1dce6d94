import GuidedTour.Proofs.Tour.Mirroring

/-! What a session retains of what it is told. A route in it was observed, or stands in the tables,
and a pause only puts one aside. The parameters came with an event of a flow, or there are none.
So whatever holds of the routes in the tables and of all that a run tells, holds of what it leaves
in the session. -/
namespace GuidedTour

/-- The routes that stand in the tables. -/
def Registry.routes (r : Registry) : List Route := r.actions.filterMap Action.route?

/-- All routes in the session have the one property, and the parameters have the other. -/
structure Session.Retains (R : Route → Prop) (Q : FlowParams → Prop) (s : Session) : Prop where
  route : ∀ route ∈ s.route, R route
  resumeRoute : ∀ route ∈ s.resumeRoute, R route
  params : Q s.params

/-- So have those that an operation tells. -/
def Operation.Tells (R : Route → Prop) (Q : FlowParams → Prop) : Operation → Prop
  | observe route => R route
  | flow _ _ given => ∀ params ∈ given, Q params
  | tutorial .. | select _ | dismiss | restart | reset => True

namespace Tour

variable {r : Registry} {R : Route → Prop} {Q : FlowParams → Prop} {t : Tour}
  {actions : List Action} {op : Operation}

theorem retains_perform {action : Action} (untold : Q {}) (own : ∀ route ∈ action.route?, R route)
    (h : t.session.Retains R Q) : (t.perform action).session.Retains R Q := by
  obtain ⟨route, resumeRoute, params⟩ := h
  cases action with
  | navigate place => exact ⟨own, resumeRoute, params⟩
  | handlePaused => exact ⟨route, route, params⟩
  | handleResume =>
    unfold perform
    dsimp only
    split
    · next place remembered =>
      exact ⟨fun _ same => resumeRoute _ (remembered.trans same), nofun, params⟩
    · exact ⟨route, resumeRoute, params⟩
  | handleDismissed | clearFeatureData => exact ⟨route, resumeRoute, untold⟩
  | _ => exact ⟨route, resumeRoute, params⟩

/-- The actions still to be performed are some that the machines ask for. -/
structure Retaining (r : Registry) (R : Route → Prop) (Q : FlowParams → Prop)
    (actions : List Action) (t : Tour) : Prop where
  registry : t.registry = r
  asked : actions ⊆ r.actions
  session : t.session.Retains R Q

section Runs

variable (own : ∀ route ∈ r.routes, R route) (untold : Q {})
include own untold

theorem carried_retaining : Carried (Retaining r R Q) where
  skip _ h := ⟨h.registry, (List.cons_subset.1 h.asked).2, h.session⟩
  act _ h := by
    obtain ⟨first, rest⟩ := List.cons_subset.1 h.asked
    refine ⟨(perform_registry _ _).trans h.registry, rest, retains_perform untold ?_ h.session⟩
    exact fun route leads => own route (List.mem_filterMap.2 ⟨_, first, leads⟩)
  next _ _ _ h := by
    obtain ⟨rfl, asked, session⟩ := h
    exact ⟨rfl, List.append_subset.2
      ⟨Registry.asked_begin _ _, (List.cons_subset.1 asked).2⟩,
      session.route, session.resumeRoute, untold⟩
  last _ _ h := by
    obtain ⟨rfl, asked, session⟩ := h
    exact ⟨rfl, List.append_subset.2
      ⟨asked_tutorialOutcome _ "DONE", (List.cons_subset.1 asked).2⟩,
      session.route, session.resumeRoute, session.params⟩

omit own untold in
theorem Retaining.openTutorial (h : Retaining r R Q [] t) (claim : Option String)
    (event : String) :
    Retaining r R Q (t.openTutorial claim event).1 (t.openTutorial claim event).2 := by
  refine openTutorial_induction claim event h fun _ => ?_
  obtain ⟨rfl, -, session⟩ := h
  exact ⟨rfl, t.asked_tutorialOutcome event, session.route, session.resumeRoute, session.params⟩

omit own untold in
theorem Retaining.openFlow (h : Retaining r R Q [] t) (claim : Option String) (event : String)
    {given : Option FlowParams} (tells : ∀ params ∈ given, Q params) :
    Retaining r R Q (t.openFlow claim event given).1 (t.openFlow claim event given).2 := by
  unfold Tour.openFlow
  cases t.session.flow with
  | none => exact h
  | some flow =>
    dsimp only
    split
    · obtain ⟨rfl, -, session⟩ := h
      refine ⟨rfl, flow.asked_answer _ _ _, session.route, session.resumeRoute, ?_⟩
      cases given with
      | none => exact session.params
      | some params => exact tells params rfl
    · exact h

omit own in
theorem Retaining.anew (h : Retaining r R Q [] t) : Retaining r R Q [] t.anew :=
  ⟨h.registry, List.nil_subset _, nofun, nofun, untold⟩

omit own in
theorem Retaining.opening (h : Retaining r R Q [] t) (tells : op.Tells R Q) :
    Retaining r R Q (t.opening op).1 (t.opening op).2 := by
  -- No `Kept` property: that would be asked of all parameters and routes, told or not.
  cases op with
  | tutorial claim event => exact h.openTutorial claim event
  | flow claim event given => exact h.openFlow claim event tells
  | select features =>
    obtain ⟨rfl, asked, session⟩ := h
    simp only [Tour.opening]
    cases Feature.distinct features with
    | nil => exact ⟨rfl, asked, session.route, session.resumeRoute, untold⟩
    | cons first rest =>
      exact ⟨rfl, t.registry.asked_begin first, session.route, session.resumeRoute, untold⟩
  | observe route =>
    refine ⟨h.registry, h.asked, fun _ same => ?_, h.session.resumeRoute, h.session.params⟩
    obtain rfl := Option.some.inj same
    exact tells
  | dismiss => exact h.openTutorial none "DISMISS"
  | restart => exact (h.anew untold).openTutorial none "AUTH"
  | reset =>
    obtain ⟨rfl, -, session⟩ := h.anew untold
    exact ⟨rfl, t.registry.asked_entry, session⟩

theorem Retaining.opened (h : Retaining r R Q [] t) (nodup : t.session.plan.Nodup)
    (tells : op.Tells R Q) : Retaining r R Q [] (t.opened op) :=
  (carried_retaining own untold).performAll (kept_nodup.opening nodup op) (h.opening untold tells)

/-- An operation leaves in a session what was there, what it tells, and what is in the tables. -/
theorem Retaining.step (h : Retaining r R Q [] t) (nodup : t.session.plan.Nodup)
    (tells : op.Tells R Q) : Retaining r R Q [] (t.step op).2 := by
  have first := h.opened own untold nodup tells
  rw [step_eq]
  split
  · exact first.opened own untold (kept_nodup.opened nodup op) trivial
  · exact first

theorem Retaining.run {ops : List Operation} (h : Retaining r R Q [] t)
    (nodup : t.session.plan.Nodup) (tells : ∀ op ∈ ops, op.Tells R Q) :
    Retaining r R Q [] (t.run ops) := by
  induction ops generalizing t with
  | nil => exact h
  | cons op ops ih =>
    obtain ⟨first, rest⟩ := List.forall_mem_cons.1 tells
    exact ih (h.step own untold nodup first) (kept_nodup.step nodup op) rest

theorem retaining_enter : Retaining r R Q [] (enter r) :=
  (carried_retaining own untold).performAll List.nodup_nil
    ⟨rfl, r.asked_entry, nofun, nofun, untold⟩

end Runs

end Tour

end GuidedTour
