import GuidedTour.Proofs.Flow.Revisits
import GuidedTour.Proofs.Flow.Walks

/-! Which flows stay within their steps. A written flow may hold any history of screens,
with repetitions and of several branches at once, and only its present length is checked.
Whether its history can ever grow too long is decided by following it: along each branch
to the last screen and, if the role branch is then in the history, once more through it.
Every event keeps a flow that passes this test, unless it completes the flow. -/
namespace GuidedTour.Flow

/-- The rest of each walk through a state. -/
def onward (f : Feature) (state : String) : List (List String) :=
  (walks f).filterMap fun walk =>
    if state ∈ walk then some (walk.dropWhile (· ≠ state)).tail else none

/-- The walk through which the last screen of the secrets flow may lead again. The other
branches are too short for their repetition to matter. -/
def roleWalk : List String := ["role", "displayRole", "credentials", "display"]

/-- Along all branches the history stays within the steps, and also if the role branch, once
visited, is walked again. -/
def Lasts (flow : Flow) : Prop :=
  ∀ states ∈ onward flow.feature flow.state,
    KeepsWithin flow.feature flow.history states ∧
      ("role" ∈ revisits flow.history states →
        KeepsWithin flow.feature (revisits flow.history states) roleWalk)

instance (flow : Flow) : Decidable flow.Lasts :=
  inferInstanceAs (Decidable (∀ states ∈ onward flow.feature flow.state, _ ∧ (_ → _)))

/-- The flow at another state, with the visit added to the history. -/
def visiting (flow : Flow) (state : String) : Flow :=
  { flow with state, history := revisit flow.history state }

theorem begun_lasts (f : Feature) : (begun .builtin f).Lasts := by
  cases f <;> decide +kernel

/-- What an edge of a built-in flow does: it completes the flow, starts it again, leads on
along the walks, or leads from the last screen of the secrets flow back to a branch. -/
theorem exits_of_flow (f : Feature) : ∀ state ∈ (Registry.builtin.flow f).states.names,
    ∀ exit ∈ (Registry.builtin.flow f).exits state,
      .completeFeature ∈ (Registry.builtin.flow f).entryActions exit.2.target ∨
      (Registry.builtin.flow f).isTerminal exit.2.target = false ∧
        (Registry.builtin.flow f).contains exit.2.target = true ∧
        (exit.1 = "RESET" ∧ exit.2.target = (Registry.builtin.flow f).initial ∨
          exit.1 ≠ "RESET" ∧ onward f exit.2.target ≠ [] ∧
            (∀ rest ∈ onward f exit.2.target, exit.2.target :: rest ∈ onward f state) ∨
          exit.1 ≠ "RESET" ∧ f = .secrets ∧ state = "display" ∧
            exit.2.target ∈ ["role", "secret", "encryption"] ∧
            exit.2.guard = .visited exit.2.target) := by
  cases f <;> decide +kernel

variable {flow : Flow} {target : String}

theorem Lasts.forward (h : flow.Lasts)
    (leads : ∀ rest ∈ onward flow.feature target,
      target :: rest ∈ onward flow.feature flow.state) : (flow.visiting target).Lasts := by
  intro rest mem
  obtain ⟨keeps, again⟩ := h _ (leads rest mem)
  exact ⟨keeps.2, again⟩

/-- The role branch again, as it was left by a visit to another state or to none. -/
theorem keepsWithin_roleWalk {f : Feature} {history later : List String}
    (h : KeepsWithin f history roleWalk) (within : Within f later)
    (same : revisit later "role" = revisit history "role") : KeepsWithin f later roleWalk := by
  refine ⟨within, ?_⟩
  rw [same]
  exact h.2

theorem Lasts.role (h : flow.Lasts) (secrets : flow.feature = .secrets)
    (last : flow.state = "display") (visited : "role" ∈ flow.history) :
    (flow.visiting "role").Lasts := by
  have here : [] ∈ onward flow.feature flow.state := by
    rw [secrets, last]
    decide
  have again : KeepsWithin flow.feature flow.history roleWalk := (h [] here).2 visited
  intro rest mem
  have hr : rest = ["displayRole", "credentials", "display"] := by
    have closed : onward .secrets "role" = [["displayRole", "credentials", "display"]] := by decide
    simpa [visiting, secrets, closed] using mem
  subst hr
  refine ⟨again.2, fun kept => keepsWithin_roleWalk again again.2.last ?_⟩
  have returns := revisit_revisits (by decide) kept
  rw [returns]
  exact revisit_revisit_self _ _

theorem Lasts.branch (h : flow.Lasts) (secrets : flow.feature = .secrets)
    (last : flow.state = "display") (ends : flow.history.getLast? = some "display")
    (target_mem : target ∈ ["secret", "encryption"]) (visited : target ∈ flow.history) :
    (flow.visiting target).Lasts := by
  have here : [] ∈ onward flow.feature flow.state := by
    rw [secrets, last]
    decide
  obtain ⟨within, again⟩ := h [] here
  have ne : target ≠ "display" := by
    rintro rfl
    exact absurd target_mem (by decide)
  have notRole : "role" ≠ target := by
    rintro rfl
    exact absurd target_mem (by decide)
  have front := revisit_isPrefix visited
  -- The history ends elsewhere, so the visit cuts at least its last entry off.
  have shorter : (revisit flow.history target).length < flow.history.length := by
    refine Nat.lt_of_le_of_ne front.length_le fun e => ?_
    have same := front.eq_of_length e
    have lastTarget := getLast?_revisit flow.history target
    rw [same, ends] at lastTarget
    exact ne (Option.some.inj lastTarget).symm
  have display : "display" ∈ flow.history := List.mem_of_getLast? ends
  have withinBack : Within flow.feature (revisit flow.history target) :=
    within.of_subset front.subset front.length_le
  have withinOn : Within flow.feature (revisit (revisit flow.history target) "display") := by
    by_cases hd : "display" ∈ revisit flow.history target
    · have cut := revisit_isPrefix hd
      exact withinBack.of_subset cut.subset cut.length_le
    · refine within.of_subset (fun s mem => ?_) ?_
      · obtain mem | rfl := mem_of_mem_revisit mem
        · exact front.subset mem
        · exact display
      · rw [revisit_of_notMem hd, List.length_append, List.length_singleton]
        exact shorter
  intro rest mem
  have hr : rest = ["display"] := by
    have closed : ∀ s ∈ ["secret", "encryption"], onward .secrets s = [["display"]] := by decide
    simpa [visiting, secrets, closed target target_mem] using mem
  subst hr
  refine ⟨⟨withinBack, withinOn⟩, fun kept => ?_⟩
  have before : "role" ∈ revisit flow.history target := mem_of_mem_revisits (by decide) kept
  refine keepsWithin_roleWalk (again (front.subset before)) withinOn ?_
  have returns := revisit_revisits (by decide) kept
  rw [returns]
  exact revisit_revisit notRole before

theorem begun_fits (f : Feature) : (begun .builtin f).Fits .builtin :=
  Walked.fits ⟨initial_mem_histories f, rfl⟩

theorem isTerminal_display : (Registry.builtin.flow .secrets).isTerminal "display" = false :=
  ((front_of_mem_histories .secrets ["idle", "enable", "list", "display"] (by decide)).recordable
    "display" (by decide)).2

theorem onward_branch_ne_nil : ∀ state ∈ ["role", "secret", "encryption"],
    onward .secrets state ≠ [] := by
  decide

theorem Fits.visiting (fits : flow.Fits .builtin)
    (known : (Registry.builtin.flow flow.feature).contains target = true)
    (lasting : (Registry.builtin.flow flow.feature).isTerminal target = false)
    (onWalk : onward flow.feature target ≠ []) (lasts : (flow.visiting target).Lasts) :
    (flow.visiting target).Fits .builtin := by
  obtain ⟨rest, mem⟩ := List.exists_mem_of_ne_nil _ onWalk
  refine ⟨known, fun s visited => ?_, fun _ => getLast?_revisit _ _, (lasts rest mem).1.first⟩
  obtain before | rfl := mem_of_mem_revisit visited
  · exact fits.recordable s before
  · exact ⟨known, lasting⟩

/-- A handled event leaves a flow that stays within its steps, or completes the flow. -/
theorem Lasts.moved (h : flow.Lasts) (fits : flow.Fits .builtin) {event : String}
    {params : FlowParams} (handled : (flow.answer .builtin event params).handled = true) :
    ((flow.moved .builtin event (flow.answer .builtin event params)).Fits .builtin ∧
      (flow.moved .builtin event (flow.answer .builtin event params)).Lasts) ∨
      .completeFeature ∈ (flow.answer .builtin event params).actions := by
  obtain ⟨edge, exit, admits, leads, entry⟩ := Machine.transition_handled handled
  have state : (flow.answer .builtin event params).state = edge.target := leads
  obtain completes | ⟨lasting, known, onward⟩ :=
    exits_of_flow flow.feature flow.state (Machine.mem_names_of_contains fits.state) _ exit
  · exact .inr (entry completes)
  left
  unfold Flow.moved
  rw [state, lasting]
  -- All but a fresh start visit the target, so only lasting is left to be shown.
  have visits (ne : event ≠ "RESET") (onWalk : Flow.onward flow.feature edge.target ≠ [])
      (lasts : (flow.visiting edge.target).Lasts) :
      Fits .builtin { flow with
        state := edge.target
        history := Tour.recordVisit event edge.target false flow.history } ∧
      Lasts { flow with
        state := edge.target
        history := Tour.recordVisit event edge.target false flow.history } := by
    rw [recordVisit_of_ne_reset ne]
    exact ⟨fits.visiting known lasting onWalk lasts, lasts⟩
  obtain ⟨reset, initial⟩ | ⟨ne, onWalk, forward⟩ | ⟨ne, secrets, last, branch, guard⟩ := onward
  · dsimp only at reset initial
    rw [reset, initial]
    exact ⟨begun_fits _, begun_lasts _⟩
  · exact visits ne onWalk (h.forward forward)
  · have visited : edge.target ∈ flow.history := by
      rw [guard] at admits
      exact List.contains_iff_mem.1 admits
    have ends : flow.history.getLast? = some "display" := by
      rw [← last]
      refine fits.ends ?_
      rw [secrets, last]
      exact isTerminal_display
    refine visits ne (secrets ▸ onward_branch_ne_nil _ branch) ?_
    obtain role | other := List.mem_cons.1 branch
    · dsimp only at role
      rw [role] at visited ⊢
      exact h.role secrets last visited
    · exact h.branch secrets last ends other visited

theorem exits_of_dismissed : ∀ exit ∈ Registry.builtin.tutorial.exits "dismissed",
    exit.2.target = "dismissed" := by
  decide +kernel

/-- A flow that fits and stays within its steps, or that a dismissed tutorial keeps still. -/
def Held (tutorial : String) (flow : Flow) : Prop :=
  flow.Fits .builtin ∧ (tutorial = "dismissed" ∨ flow.Lasts)

theorem keeps_held : Registry.builtin.Keeps Held where
  initial := keeps_walked.initial
  begun _ f := ⟨begun_fits f, .inr (begun_lasts f)⟩
  tutorial h handled := by
    refine ⟨h.1, h.2.imp_left fun dismissed => ?_⟩
    subst dismissed
    obtain ⟨edge, exit, _, target, _⟩ := Machine.transition_handled handled
    rw [target]
    exact exits_of_dismissed _ exit
  flow {s _ _ _} active h handled := by
    have lasts : Lasts _ := h.2.resolve_left fun dismissed => by
      unfold Session.isActive at active
      rw [dismissed] at active
      exact absurd active (by decide)
    exact (lasts.moved h.1 handled).imp_left fun ⟨fits, lasts⟩ => ⟨fits, .inr lasts⟩

end GuidedTour.Flow
