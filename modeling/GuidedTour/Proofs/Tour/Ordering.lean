import GuidedTour.Progress
import GuidedTour.Proofs.Tour.Opening

/-! Plans run in order. A plan divides into features that are completed and features that are
due, the active one first; every action keeps this division or drops the plan as a whole. The
bar shows it: full segments, then the active one, then the rest. -/
namespace GuidedTour

namespace Session

/-- The plan lists nothing twice, and all of it is completed but what is due. -/
structure InOrder (s : Session) : Prop where
  nodup : s.plan.Nodup
  done : ∃ done, s.plan = done ++ s.due ∧ ∀ f ∈ done, s.completed.contains f = true

theorem inOrder_of_plan_nil {s : Session} (hp : s.plan = []) (hd : s.due = []) : s.InOrder := by
  refine ⟨?_, [], ?_, ?_⟩ <;> simp [hp, hd]

/-- The first feature that is due is completed, and the rest stays due. -/
theorem InOrder.complete {s after : Session} {f : Feature} {rest : List Feature}
    (h : s.InOrder) (hd : s.due = f :: rest) (plan : after.plan = s.plan)
    (completed : after.completed = s.completed.insert f) (due : after.due = rest) :
    after.InOrder := by
  obtain ⟨done, split, all⟩ := h.done
  refine ⟨plan ▸ h.nodup, done ++ [f], ?_, ?_⟩
  · rw [plan, split, hd, due]
    simp
  · intro g mem
    rw [List.mem_append, List.mem_singleton] at mem
    rw [completed, FeatureSet.contains_insert]
    obtain mem | rfl := mem
    · simp [all g mem]
    · simp

end Session

namespace Tour

variable {t : Tour}

theorem inOrder_perform {action : Action} (h : t.session.InOrder) :
    (t.perform action).session.InOrder := by
  obtain ⟨hd, hp⟩ | ⟨hd, hp⟩ := t.due_perform action
  · obtain ⟨done, split, completed⟩ := h.done
    refine ⟨hp ▸ h.nodup, done, ?_, ?_⟩
    · rw [hp, hd, split]
    · simpa using completed
  · exact Session.inOrder_of_plan_nil hp hd

theorem inOrder_planned {first : Feature} {rest : List Feature}
    (nodup : (first :: rest).Nodup) : (t.planned first rest).session.InOrder := by
  refine ⟨nodup, [], ?_, by simp⟩
  rw [due_planned]
  rfl

theorem kept_inOrder : Kept fun _ t => t.session.InOrder where
  skip _ h := h
  act _ h := inOrder_perform h
  next hf nodup ha h :=
    h.complete (due_of_flow hf) rfl rfl ((due_next hf nodup ha).trans ha.symm)
  last hf ha h :=
    h.complete (due_of_flow hf) rfl rfl ((due_of_none (finish_flow _)).trans ha.symm)
  nodup h := h.nodup
  tutorial h _ := ⟨h.nodup, h.done⟩
  flow {t flow event params} h hf _ _ := by
    refine ⟨h.nodup, ?_⟩
    rw [due_flowMoved hf]
    exact h.done
  select _ nodup := inOrder_planned nodup
  clear _ := Session.inOrder_of_plan_nil rfl rfl
  observe h := ⟨h.nodup, h.done⟩
  restart _ :=
    openTutorial_induction (I := fun _ t => t.session.InOrder) none "AUTH"
      (Session.inOrder_of_plan_nil rfl rfl) fun _ => Session.inOrder_of_plan_nil rfl rfl
  reset _ := Session.inOrder_of_plan_nil rfl rfl

theorem inOrder_run_enter (r : Registry) (ops : List Operation) :
    ((enter r).run ops).session.InOrder := by
  have fresh : (Tour.mk r (.fresh r) []).session.InOrder :=
    Session.inOrder_of_plan_nil rfl rfl
  exact kept_inOrder.run (kept_inOrder.performAll fresh.nodup fresh) ops

end Tour

namespace Progress

variable {r : Record} {f active : Feature} {position : Position}

/-- The part of the bar for a feature whose flow is not active. -/
def resting (r : Record) (f : Feature) : Segment :=
  if r.completed.contains f then ⟨f, 100, .completed⟩ else ⟨f, 0, .pending⟩

theorem segment_of_ne (hc : ∀ p, current r = some p → p.1 ≠ f) : segment r f = resting r f := by
  unfold segment resting
  cases h : current r with
  | none => rfl
  | some p => simp [hc p h]

theorem segment_self (hc : current r = some (f, position)) :
    segment r f = ⟨f, position.percentage, .active⟩ := by
  unfold segment
  simp [hc]

theorem resting_of_completed (h : r.completed.contains f = true) :
    resting r f = ⟨f, 100, .completed⟩ := by
  simp [resting, h]

@[simp] theorem resting_feature (r : Record) (f : Feature) : (resting r f).feature = f := by
  unfold resting
  split <;> rfl

@[simp] theorem resting_status (r : Record) (f : Feature) :
    ((resting r f).status = .active) = False := by
  unfold resting
  split <;> simp

theorem bar_features (r : Record) : (bar r).map (·.feature) = r.plan := by
  have same : ∀ f, (segment r f).feature = f := by
    intro f
    by_cases hc : ∀ p, current r = some p → p.1 ≠ f
    · rw [segment_of_ne hc, resting_feature]
    · simp only [not_forall, not_not] at hc
      obtain ⟨p, hp, rfl⟩ := hc
      rw [segment_self hp]
  unfold bar
  rw [List.map_map]
  simp [Function.comp_def, same]

theorem current_of_flow {s : Session} {flow : Flow} (hf : s.flow = some flow) :
    ∃ position, current s.record = some (flow.feature, position) := by
  simp [current, Session.record, hf]

theorem current_of_none {s : Session} (hf : s.flow = none) : current s.record = none := by
  simp [current, Session.record, hf]

theorem bar_of_none {s : Session} (h : s.InOrder) (hf : s.flow = none) :
    (∀ f ∈ s.plan, s.completed.contains f = true) ∧
      bar s.record = s.plan.map (⟨·, 100, .completed⟩) := by
  obtain ⟨done, split, completed⟩ := h.done
  have hd : s.due = [] := by simp [Session.due, hf]
  rw [hd, List.append_nil] at split
  rw [← split] at completed
  refine ⟨completed, List.map_congr_left ?_⟩
  intro f mem
  rw [segment_of_ne (by simp [current_of_none hf])]
  exact resting_of_completed (completed f mem)

/-- An active flow divides the plan, and the bar with it. -/
theorem bar_of_flow {s : Session} (h : s.InOrder) {flow : Flow} (hf : s.flow = some flow)
    (hc : current s.record = some (flow.feature, position)) :
    ∃ done, s.plan = done ++ flow.feature :: s.ahead ∧
      (∀ f ∈ done, s.completed.contains f = true) ∧
      bar s.record = done.map (⟨·, 100, .completed⟩) ++
        ⟨flow.feature, position.percentage, .active⟩ :: s.ahead.map (resting s.record) := by
  obtain ⟨done, split, completed⟩ := h.done
  have hd : s.due = flow.feature :: s.ahead := by simp [Session.due, hf]
  rw [hd] at split
  have nodup := h.nodup
  rw [split] at nodup
  have other : ∀ f, f ≠ flow.feature → segment s.record f = resting s.record f := by
    intro f ne
    apply segment_of_ne
    simp [hc, ne.symm]
  have before : ∀ f ∈ done, segment s.record f = ⟨f, 100, .completed⟩ := by
    intro f mem
    have ne : f ≠ flow.feature := by
      rintro rfl
      exact (List.nodup_append.1 nodup).2.2 _ mem _ List.mem_cons_self rfl
    rw [other f ne]
    exact resting_of_completed (completed f mem)
  have after : ∀ f ∈ s.ahead, segment s.record f = resting s.record f := by
    intro f mem
    apply other
    rintro rfl
    exact (List.nodup_cons.1 (List.nodup_append.1 nodup).2.1).1 mem
  refine ⟨done, split, completed, ?_⟩
  have hb : bar s.record = (done ++ flow.feature :: s.ahead).map (segment s.record) := by
    rw [← split]
    rfl
  rw [hb, List.map_append, List.map_cons, List.map_congr_left before,
    List.map_congr_left after, segment_self hc]

end Progress

/-- Over any registry, every run leaves a plan that runs in order, and a bar that shows it. The
plan lists nothing twice, and the bar follows it. With an active flow, all that is planned before
it is completed, and the bar has exactly one active segment, at the flow's percentage, after full
ones; with none, all of the plan is completed. -/
theorem Tour.plan_runs_in_order (r : Registry) (ops : List Operation) :
    let s := ((Tour.enter r).run ops).session
    s.plan.Nodup ∧ (Progress.bar s.record).map (·.feature) = s.plan ∧
    (∀ flow, s.flow = some flow → ∃ done ahead position,
      s.plan = done ++ flow.feature :: ahead ∧
      (∀ f ∈ done, s.completed.contains f = true) ∧
      Progress.current s.record = some (flow.feature, position) ∧
      Progress.bar s.record = done.map (⟨·, 100, .completed⟩) ++
        ⟨flow.feature, position.percentage, .active⟩ ::
          ahead.map (Progress.resting s.record) ∧
      (Progress.bar s.record).countP (·.status = .active) = 1) ∧
    (s.flow = none → (∀ f ∈ s.plan, s.completed.contains f = true) ∧
      Progress.bar s.record = s.plan.map (⟨·, 100, .completed⟩)) := by
  intro s
  have order : s.InOrder := inOrder_run_enter r ops
  refine ⟨order.nodup, Progress.bar_features _, ?_, fun hf => Progress.bar_of_none order hf⟩
  intro flow hf
  obtain ⟨position, hc⟩ := Progress.current_of_flow hf
  obtain ⟨done, split, completed, hb⟩ := Progress.bar_of_flow order hf hc
  refine ⟨done, s.ahead, position, split, completed, hc, hb, ?_⟩
  rw [hb]
  simp [List.countP_map, Function.comp_def]

end GuidedTour
