import GuidedTour.Proofs.Session.Fitting
import GuidedTour.Proofs.Tour.Opening

/-! The screen and the route mirror the intents. Whatever an operation performs, over any
registry, the screen shows what the newly queued intents render, and the route is where the
last of them leads. An account of a session adds up what was queued and observed since the
session began; it stays true whenever the queue is taken. -/
namespace GuidedTour

/-- Mounts what an intent renders. -/
def Screen.draw (s : Screen) : Action → Screen
  | .render region component => s.set region component
  | _ => s

/-- What an intent puts into a region: a component, or nothing in its place. -/
def Action.placed? (region : Region) : Action → Option (Option String)
  | .render place component => if region = place then some component else none
  | _ => none

def Action.route? : Action → Option Route
  | .navigate route => some route
  | _ => none

theorem Action.isIntent_cases {action : Action} (h : action.isIntent = true) :
    (∃ region component, action = .render region component) ∨
      ∃ route, action = .navigate route := by
  cases action with
  | render region component => exact .inl ⟨region, component, rfl⟩
  | navigate route => exact .inr ⟨route, rfl⟩
  | _ => cases h

namespace Screen

theorem get_draw (s : Screen) (action : Action) (region : Region) :
    (s.draw action).get region = (action.placed? region).getD (s.get region) := by
  cases action with
  | render place component =>
    simp only [draw, get_set, Action.placed?]
    split <;> rfl
  | _ => rfl

/-- The last component rendered into a region is mounted there, or else what was before. -/
theorem get_foldl_draw (s : Screen) (told : List Action) (region : Region) :
    (told.foldl draw s).get region =
      (told.filterMap (Action.placed? region)).getLast?.getD (s.get region) := by
  induction told generalizing s with
  | nil => rfl
  | cons action told ih =>
    rw [List.foldl_cons, ih, get_draw, List.filterMap_cons]
    cases action.placed? region with
    | none => rfl
    | some component =>
      rw [List.getLast?_cons]
      rfl

end Screen

namespace Tour

variable {t next last : Tour} {told more : List Action}

/-- On the way from one tour to the other some intents were queued, and the screen and the
route followed them. -/
structure Tells (t : Tour) (told : List Action) (next : Tour) : Prop where
  intents : next.intents = t.intents ++ told
  outward : ∀ intent ∈ told, intent.isIntent = true
  screen : next.session.screen = told.foldl Screen.draw t.session.screen
  route : next.session.route = (told.filterMap Action.route?).getLast?.or t.session.route

namespace Tells

theorem silent (intents : next.intents = t.intents)
    (screen : next.session.screen = t.session.screen)
    (route : next.session.route = t.session.route) : t.Tells [] next := by
  refine ⟨?_, by simp, screen, route⟩
  rw [intents, List.append_nil]

theorem refl (t : Tour) : t.Tells [] t := silent rfl rfl rfl

theorem trans (h : t.Tells told next) (h' : next.Tells more last) :
    t.Tells (told ++ more) last := by
  refine ⟨?_, ?_, ?_, ?_⟩
  · rw [h'.intents, h.intents, List.append_assoc]
  · intro intent mem
    obtain before | after := List.mem_append.1 mem
    · exact h.outward intent before
    · exact h'.outward intent after
  · rw [h'.screen, h.screen, List.foldl_append]
  · rw [h'.route, h.route, List.filterMap_append, List.getLast?_append, Option.or_assoc]

theorem perform (t : Tour) (action : Action) : ∃ told, t.Tells told (t.perform action) := by
  cases action with
  | render region component =>
    exact ⟨[.render region component], rfl, by simp [Action.isIntent], rfl, rfl⟩
  | navigate route => exact ⟨[.navigate route], rfl, by simp [Action.isIntent], rfl, rfl⟩
  | handleResume =>
    unfold Tour.perform
    cases t.session.resumeRoute with
    | some route => exact ⟨[.navigate route], rfl, by simp [Action.isIntent], rfl, rfl⟩
    | none => exact ⟨[], refl t⟩
  | _ => exact ⟨[], silent rfl rfl rfl⟩

/-- What was told up to a tour was told up to any other with the same queue, screen and route. -/
theorem carry (h : ∃ told, t.Tells told next) (h' : next.Tells [] last) :
    ∃ told, t.Tells told last := by
  obtain ⟨told, h⟩ := h
  have all := h.trans h'
  rw [List.append_nil] at all
  exact ⟨told, all⟩

theorem carried (start : Tour) : Carried fun _ t => ∃ told, start.Tells told t where
  skip _ h := h
  act _ h := by
    obtain ⟨told, h⟩ := h
    obtain ⟨more, h'⟩ := perform _ _
    exact ⟨told ++ more, h.trans h'⟩
  next _ _ _ h := carry h (silent rfl rfl rfl)
  last _ _ h := carry h (silent rfl rfl rfl)

end Tells

/-- Where an operation starts to queue intents: afresh, or from the route that it observes. -/
def outset (t : Tour) : Operation → Tour
  | .restart | .reset => t.anew
  | .observe route => t.observe route
  | .tutorial .. | .flow .. | .select _ | .dismiss => t

theorem tells_openTutorial (t : Tour) (claim : Option String) (event : String) :
    t.Tells [] (t.openTutorial claim event).2 :=
  openTutorial_induction (I := fun _ next => t.Tells [] next) claim event (.refl t)
    fun _ => .silent rfl rfl rfl

theorem tells_openFlow (t : Tour) (claim : Option String) (event : String)
    (given : Option FlowParams) : t.Tells [] (t.openFlow claim event given).2 := by
  unfold openFlow
  cases t.session.flow with
  | none => exact .refl t
  | some flow =>
    dsimp only
    split
    · exact .silent rfl rfl rfl
    · exact .refl t

theorem tells_opening (t : Tour) (op : Operation) : (t.outset op).Tells [] (t.opening op).2 := by
  cases op with
  | tutorial claim event => exact t.tells_openTutorial claim event
  | flow claim event given => exact t.tells_openFlow claim event given
  | select features =>
    simp only [opening]
    cases Feature.distinct features with
    | nil => exact .silent rfl rfl rfl
    | cons first rest => exact .silent rfl rfl rfl
  | observe route => exact .refl _
  | dismiss => exact t.tells_openTutorial none "DISMISS"
  | restart => exact t.anew.tells_openTutorial none "AUTH"
  | reset => exact .refl _

theorem tells_opened (nodup : t.session.plan.Nodup) (op : Operation) :
    ∃ told, (t.outset op).Tells told (t.opened op) :=
  (Tells.carried (t.outset op)).performAll (kept_nodup.opening nodup op)
    ⟨[], t.tells_opening op⟩

/-- Whatever an operation comes to, it queues intents that the screen and the route follow. -/
theorem tells_step (nodup : t.session.plan.Nodup) (op : Operation) :
    ∃ told, (t.outset op).Tells told (t.step op).2 := by
  obtain ⟨told, h⟩ := tells_opened nodup op
  rw [step_eq]
  split
  · obtain ⟨more, h'⟩ :=
      tells_opened (kept_nodup.opened nodup op) (.tutorial none "CONTINUE")
    exact ⟨told ++ more, h.trans h'⟩
  · exact ⟨told, h⟩

theorem tells_enter (r : Registry) :
    ∃ told, Tells ⟨r, .fresh r, []⟩ told (enter r) :=
  (Tells.carried _).performAll List.nodup_nil ⟨[], .refl _⟩

end Tour

/-- What the outside does to a session: it asks for an operation, or it takes the queue. -/
inductive Turn where
  | operate (op : Operation)
  | take

/-- What concerns the screen and the route of a session. -/
inductive Notice where
  | queued (intent : Action)
  | observed (route : Route)

namespace Notice

def intent? : Notice → Option Action
  | queued intent => some intent
  | observed _ => none

def route? : Notice → Option Route
  | queued intent => intent.route?
  | observed route => some route

end Notice

/-- A session, with what happened to it since it began: anew, or from a written record. -/
structure Account where
  tour : Tour
  /-- Screen at the beginning. -/
  screen : Screen := .empty
  /-- Route at the beginning. -/
  route : Option Route := none
  /-- Intents handed over since. -/
  taken : List Action := []
  /-- Intents queued and routes observed since, oldest first. -/
  notices : List Notice := []

namespace Account

/-- With nothing mounted, and with all news still in the queue. -/
def anew (t : Tour) : Account := { tour := t, notices := t.intents.map .queued }

def resumed (record : Record) (t : Tour) : Account :=
  { tour := t, screen := record.screen, route := record.route }

/-- How a session begins: it is entered, or resumed from a record that fits. -/
inductive Begins (r : Registry) : Account → Prop where
  | enter : Begins r (anew (.enter r))
  | resume {record t} : Tour.resume r record = .ok t → Begins r (resumed record t)

/-- A fresh start begins the account again, without what was queued before. -/
def turn (a : Account) : Turn → Account
  | .take =>
    { a with tour := a.tour.takeIntents.2, taken := a.taken ++ a.tour.takeIntents.1 }
  | .operate op =>
    let next := (a.tour.step op).2
    match op with
    | .restart | .reset => anew next
    | .observe route => { a with tour := next, notices := a.notices ++ [.observed route] }
    | .tutorial .. | .flow .. | .select _ | .dismiss =>
      let told := next.intents.drop a.tour.intents.length
      { a with tour := next, notices := a.notices ++ told.map .queued }

/-- The screen and the route are those at the beginning, changed by what happened since. -/
structure Mirrors (a : Account) : Prop where
  nodup : a.tour.session.plan.Nodup
  outward : ∀ intent ∈ a.taken ++ a.tour.intents, intent.isIntent = true
  screen : a.tour.session.screen = (a.taken ++ a.tour.intents).foldl Screen.draw a.screen
  noted : a.notices.filterMap Notice.intent? = a.taken ++ a.tour.intents
  route : a.tour.session.route = (a.notices.filterMap Notice.route?).getLast?.or a.route

variable {a : Account} {next : Tour} {told : List Action}

theorem intents_queued (told : List Action) :
    (told.map Notice.queued).filterMap Notice.intent? = told := by
  rw [List.filterMap_map]
  exact List.filterMap_some

theorem routes_queued (told : List Action) :
    (told.map Notice.queued).filterMap Notice.route? = told.filterMap Action.route? :=
  List.filterMap_map

theorem mirrors_anew {r : Registry} (h : Tour.Tells ⟨r, .fresh r, []⟩ told next)
    (nodup : next.session.plan.Nodup) : (anew next).Mirrors := by
  have intents : next.intents = told := h.intents
  subst intents
  refine ⟨nodup, h.outward, h.screen, intents_queued _, ?_⟩
  simp only [anew, routes_queued]
  exact h.route

theorem Mirrors.tells (h : a.Mirrors) (tells : a.tour.Tells told next)
    (nodup : next.session.plan.Nodup) :
    Mirrors { a with tour := next, notices := a.notices ++ told.map .queued } := by
  refine ⟨nodup, ?_, ?_, ?_, ?_⟩
  all_goals dsimp only
  · intro intent mem
    rw [tells.intents, ← List.append_assoc] at mem
    obtain before | after := List.mem_append.1 mem
    · exact h.outward intent before
    · exact tells.outward intent after
  · rw [tells.screen, h.screen, tells.intents, ← List.append_assoc, ← List.foldl_append]
  · rw [List.filterMap_append, intents_queued, h.noted, tells.intents, List.append_assoc]
  · rw [tells.route, h.route, List.filterMap_append, routes_queued, List.getLast?_append,
      Option.or_assoc]

theorem Mirrors.operate (h : a.Mirrors) (op : Operation) : (a.turn (.operate op)).Mirrors := by
  obtain ⟨told, tells⟩ := Tour.tells_step h.nodup op
  have nodup : (a.tour.step op).2.session.plan.Nodup := Tour.kept_nodup.step h.nodup op
  have drops (ht : a.tour.Tells told (a.tour.step op).2) :
      (a.tour.step op).2.intents.drop a.tour.intents.length = told := by
    rw [ht.intents, List.drop_left]
  cases op with
  | restart => exact mirrors_anew tells nodup
  | reset => exact mirrors_anew tells nodup
  | observe route =>
    refine ⟨h.nodup, h.outward, h.screen, ?_, ?_⟩
    · simp only [turn, List.filterMap_append, h.noted]
      exact List.append_nil _
    · simp only [turn, List.filterMap_append, List.getLast?_append]
      rfl
  | _ =>
    simp only [turn, drops tells]
    exact h.tells tells nodup

theorem Mirrors.turn (h : a.Mirrors) (turn : Turn) : (a.turn turn).Mirrors := by
  cases turn with
  | operate op => exact h.operate op
  | take =>
    -- What is pending joins what was taken, and nothing is pending then.
    have handed : a.taken ++ a.tour.intents = a.taken ++ a.tour.takeIntents.1 ++ [] :=
      (List.append_nil _).symm
    obtain ⟨nodup, outward, screen, noted, route⟩ := h
    rw [handed] at outward screen noted
    exact ⟨nodup, outward, screen, noted, route⟩

theorem Mirrors.turns (h : a.Mirrors) (turns : List Turn) :
    (turns.foldl Account.turn a).Mirrors := by
  induction turns generalizing a with
  | nil => exact h
  | cons turn turns ih => exact ih (h.turn turn)

theorem Begins.mirrors {r : Registry} (h : a.Begins r) : a.Mirrors := by
  cases h with
  | enter =>
    obtain ⟨told, tells⟩ := Tour.tells_enter r
    exact mirrors_anew tells (Tour.kept_nodup.performAll List.nodup_nil List.nodup_nil)
  | resume h =>
    obtain ⟨-, rfl⟩ := Tour.resume_eq_ok_iff.1 h
    refine ⟨(Tour.fits_of_resume h).plan, by simp [resumed], rfl, rfl, rfl⟩

/-- Over any registry, and wherever the queue is taken in between: all that is ever queued is
rendered or navigated to. In each region stands what the last of the intents taken and pending put
there, or nothing if it cleared the region, or else what stood there at the beginning. The route is
the one last navigated to or observed, or else the one at the beginning. -/
theorem screen_route_mirror {r : Registry} {start : Account} (begins : start.Begins r)
    (turns : List Turn) :
    let a := turns.foldl turn start
    (∀ intent ∈ a.taken ++ a.tour.intents,
      (∃ region component, intent = .render region component) ∨
        ∃ route, intent = .navigate route) ∧
    (∀ region, a.tour.session.screen.get region =
      ((a.taken ++ a.tour.intents).filterMap (Action.placed? region)).getLast?.getD
        (a.screen.get region)) ∧
    a.notices.filterMap Notice.intent? = a.taken ++ a.tour.intents ∧
    a.tour.session.route = (a.notices.filterMap Notice.route?).getLast?.or a.route := by
  intro a
  have mirrors : a.Mirrors := begins.mirrors.turns turns
  refine ⟨fun intent mem => ?_, fun region => ?_, mirrors.noted, mirrors.route⟩
  · exact Action.isIntent_cases (mirrors.outward intent mem)
  · rw [mirrors.screen, Screen.get_foldl_draw]

/-- A paused session with a screen of its own, to be resumed elsewhere. -/
def pausedRecord : Record where
  tutorial := "paused"
  plan := [.tools]
  machine := some .tools
  state := some "wrap"
  history := ["wrap"]
  screen := { tutorial := some "tutorial-paused", detail := some "notes" }
  route := some ⟨"vault.cluster.secrets", []⟩
  resumeRoute := some ⟨"vault.cluster.tools", []⟩

theorem screen_route_mirror_pausedRecord :
    Tour.resume .builtin pausedRecord = .ok ⟨.builtin, pausedRecord.session, []⟩ ∧
      let a := ([.operate (.tutorial none "CONTINUE"), .take,
        .operate (.flow none "CONTINUE" none)] : List Turn).foldl turn
          (resumed pausedRecord ⟨.builtin, pausedRecord.session, []⟩)
      (∀ region, a.tour.session.screen.get region =
        ((a.taken ++ a.tour.intents).filterMap (Action.placed? region)).getLast?.getD
          (pausedRecord.screen.get region)) ∧
      a.tour.session.screen =
        { tutorial := some "tutorial-active", feature := some "tools-wrapped",
          detail := some "notes" } ∧
      a.tour.session.route = some ⟨"vault.cluster.tools", []⟩ := by
  have resumes : Tour.resume .builtin pausedRecord = .ok ⟨.builtin, pausedRecord.session, []⟩ :=
    Tour.resume_eq_ok_iff.2 ⟨by decide +kernel, rfl⟩
  have mirror := screen_route_mirror (.resume resumes) [.operate (.tutorial none "CONTINUE"),
    .take, .operate (.flow none "CONTINUE" none)]
  exact ⟨resumes, mirror.2.1, by decide +kernel⟩

end Account

end GuidedTour
