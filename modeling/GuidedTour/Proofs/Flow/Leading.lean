import Mathlib.Data.List.Chain
import GuidedTour.Proofs.Flow.Lasting
import GuidedTour.Proofs.Tour.Steering

/-! How a flow can be led. Each step of a walk has an event, with parameters that fit the
engine, that takes it whatever the history; only the way back to the role branch has to have
been walked before. -/
namespace GuidedTour

namespace Flow

variable {flow : Flow} {states more : List String}

/-- The flow after some visits. -/
def visitingAll (flow : Flow) (states : List String) : Flow := states.foldl visiting flow

theorem visitingAll_append : flow.visitingAll (states ++ more) =
    (flow.visitingAll states).visitingAll more :=
  List.foldl_append

@[simp] theorem visitingAll_feature : (flow.visitingAll states).feature = flow.feature := by
  induction states generalizing flow with
  | nil => rfl
  | cons state states ih => exact ih

@[simp] theorem visitingAll_history :
    (flow.visitingAll states).history = revisits flow.history states := by
  induction states generalizing flow with
  | nil => rfl
  | cons state states ih => exact ih

theorem visitingAll_state {last : String} (h : (flow.state :: states).getLast? = some last) :
    (flow.visitingAll states).state = last := by
  induction states generalizing flow with
  | nil => exact Option.some.inj h
  | cons state states ih =>
    refine ih ?_
    rw [List.getLast?_cons_cons] at h
    exact h

/-- An event that leads to a lasting state whatever the history, and does nothing else to
the flow. -/
def Steers (f : Feature) (state target : String) (cue : String × FlowParams) : Prop :=
  cue.1 ≠ "RESET" ∧
    (∀ exit ∈ (Registry.builtin.flow f).exits state, exit.1 = cue.1 →
      exit.2.guard.looksBack = false) ∧
    ((Registry.builtin.flow f).transition state cue.1 ⟨some cue.2, []⟩).IsCalm ∧
    ((Registry.builtin.flow f).transition state cue.1 ⟨some cue.2, []⟩).state = target ∧
    (Registry.builtin.flow f).isTerminal target = false

instance (f : Feature) (state target : String) : DecidablePred (Steers f state target) :=
  fun _ => inferInstanceAs (Decidable (_ ∧ _ ∧ _ ∧ _ ∧ _))

/-- Events that lead along the walks: each engine with a branch, and none. -/
def cues : List (String × FlowParams) :=
  [("CONTINUE", {}), ("CONTINUE", ⟨some "pki"⟩), ("CONTINUE", ⟨some "kv"⟩),
    ("CONTINUE", ⟨some "transit"⟩), ("LOOKUP", {}), ("REWRAP", {}), ("UNWRAP", {}),
    ("ENABLEREPLICATION", {})]

theorem steers_along_walks (f : Feature) : ∀ walk ∈ walks f,
    walk.IsChain fun state target => ∃ cue ∈ cues, Steers f state target cue := by
  cases f <;> decide +kernel

theorem mem_walk_of_mem_onward {f : Feature} {state : String} (h : states ∈ onward f state) :
    ∃ walk ∈ walks f, state :: states <:+ walk := by
  obtain ⟨walk, mem, rest⟩ := List.mem_filterMap.1 h
  by_cases hs : state ∈ walk
  · obtain ⟨front, back, split, first⟩ := List.eq_append_cons_of_mem hs
    have stops : walk.dropWhile (· ≠ state) = state :: back := by
      rw [split, List.dropWhile_append_of_pos (fun s before => by
        simpa using fun (e : s = state) => first (e ▸ before))]
      simp
    rw [if_pos hs, stops] at rest
    cases Option.some.inj rest
    exact ⟨walk, mem, front, split.symm⟩
  · rw [if_neg hs] at rest
    cases rest

theorem steers_onward {f : Feature} {state : String} (h : states ∈ onward f state) :
    (state :: states).IsChain fun state target => ∃ cue ∈ cues, Steers f state target cue := by
  obtain ⟨walk, mem, back⟩ := mem_walk_of_mem_onward h
  exact (steers_along_walks f walk mem).suffix back

theorem getLast?_walks_secrets : ∀ walk ∈ walks .secrets, walk.getLast? = some "display" := by
  decide

theorem role_notMem_walks (f : Feature) (h : f ≠ .secrets) : ∀ walk ∈ walks f,
    "role" ∉ walk := by
  cases f with
  | secrets => exact absurd rfl h
  | _ => decide

theorem contains_role (f : Feature) (h : (Registry.builtin.flow f).contains "role" = true) :
    f = .secrets := by
  cases f with
  | secrets => rfl
  | _ => exact absurd h (by decide +kernel)

/-- Only the secrets flow visits the role branch. -/
theorem secrets_of_role (fits : flow.Fits .builtin)
    (mem : states ∈ onward flow.feature flow.state)
    (visited : "role" ∈ revisits flow.history states) : flow.feature = .secrets := by
  by_cases role : "role" ∈ flow.history
  · exact contains_role _ (fits.recordable _ role).1
  · obtain ⟨walk, isWalk, back⟩ := mem_walk_of_mem_onward mem
    have inWalk : "role" ∈ walk := by
      refine back.subset (List.mem_cons_of_mem _ ?_)
      exact Classical.byContradiction fun notMem => role (mem_of_mem_revisits notMem visited)
    exact Classical.byContradiction fun ne => role_notMem_walks _ ne walk isWalk inWalk

theorem state_visitingAll_onward (secrets : flow.feature = .secrets)
    (mem : states ∈ onward flow.feature flow.state) :
    (flow.visitingAll states).state = "display" := by
  obtain ⟨walk, isWalk, front, rfl⟩ := mem_walk_of_mem_onward mem
  rw [secrets] at isWalk
  have ends := getLast?_walks_secrets _ isWalk
  rw [List.getLast?_append_cons] at ends
  exact visitingAll_state ends

theorem firstEdge?_repeat : (Registry.builtin.flow .secrets).firstEdge? "display" "REPEAT" =
    some ⟨"role", .visited "role", []⟩ := by
  decide +kernel

theorem repeat_role : ((Registry.builtin.flow .secrets).transition "display" "REPEAT"
      ⟨none, ["role"]⟩).IsCalm ∧
    ((Registry.builtin.flow .secrets).transition "display" "REPEAT"
      ⟨none, ["role"]⟩).state = "role" ∧
    (Registry.builtin.flow .secrets).isTerminal "role" = false := by
  decide +kernel

theorem moved_eq_visiting {event : String} {outcome : Outcome} {target : String}
    (reset : event ≠ "RESET") (leads : outcome.state = target)
    (lasting : (Registry.builtin.flow flow.feature).isTerminal target = false) :
    flow.moved .builtin event outcome = flow.visiting target := by
  unfold Flow.moved
  rw [leads, lasting, recordVisit_of_ne_reset reset]
  rfl

end Flow

end GuidedTour
