import GuidedTour.Proofs.Service.Delivery
import GuidedTour.Proofs.Tour.Ignoring
import GuidedTour.Proofs.Tour.Retaining

/-! What clients can leave in a session. A body may hold any text, but the event in it and the
state that it claims are stored nowhere. Only an observed route goes in, and the mount type that
comes with the event of a flow, and the lengths of both are checked on the way. What a session
then moves from one place to the other is no longer than that. -/
namespace GuidedTour

/-- The name of a route and its parameters are short enough to be stored. -/
def Route.InLimits (route : Route) : Prop :=
  ∀ text ∈ route.name :: route.params, text.utf8ByteSize ≤ 256

instance : DecidablePred Route.InLimits :=
  fun route => inferInstanceAs (Decidable (∀ text ∈ route.name :: route.params, _))

def FlowParams.InLimits (params : FlowParams) : Prop :=
  ∀ type ∈ params.mountType, type.utf8ByteSize ≤ 128

theorem Registry.builtin_inLimits : ∀ route ∈ builtin.routes, route.InLimits := by
  decide +kernel

namespace Service

theorem RouteBody.inLimits_of_toRoute {b : RouteBody} {route : Route}
    (h : b.toRoute = .ok route) : route.InLimits := by
  unfold toRoute at h
  split at h
  · cases h
  · split at h
    · cases h
    · next short =>
      cases h
      intro text mem
      have within := List.find?_eq_none.1 short text mem
      exact Nat.not_lt.1 fun long => within (decide_eq_true long)

theorem EventBody.inLimits_of_toParams {b : EventBody} {given : Option FlowParams}
    (h : b.toParams = .ok given) : ∀ params ∈ given, params.InLimits := by
  unfold toParams at h
  split at h
  · cases h
    exact nofun
  · split at h
    · cases h
    · next short =>
      cases h
      rintro params ⟨⟩ type ⟨⟩
      exact Nat.not_lt.1 short

/-- Whatever operation a request asks for, what it tells was checked. The mount type in a body for
the tutorial is not, and is dropped. -/
theorem tells_of_requested {op : Operation} (h : Requested op) :
    op.Tells Route.InLimits FlowParams.InLimits := by
  obtain ⟨r, c, asks, asked⟩ := h
  obtain ⟨resource, -, reads⟩ := Request.command_eq_ok_iff.1 asks
  cases reads with
  | flow _ _ _ _ _ checked =>
    cases asked
    exact EventBody.inLimits_of_toParams checked
  | observe _ _ _ checked =>
    cases asked
    exact RouteBody.inLimits_of_toRoute checked
  | select | tutorial | restart =>
    cases asked
    trivial
  | _ => cases asked

end Service

/-- Every name in the session is in the tables, and what was told is within the limits. -/
structure Tour.Vetted (r : Registry) (t : Tour) : Prop where
  sound : Sound r (fun _ flow => flow.Shaped r) t
  retaining : Retaining r Route.InLimits FlowParams.InLimits [] t

namespace Tour

variable {r : Registry} {t : Tour}

theorem Vetted.takeIntents (h : Vetted r t) : Vetted r t.takeIntents.2 :=
  ⟨⟨h.sound.registry, h.sound.tutorial, h.sound.plan, h.sound.flow⟩,
    ⟨h.retaining.registry, h.retaining.asked, h.retaining.session⟩⟩

section Runs

variable (built : r.Built) (short : ∀ route ∈ r.routes, route.InLimits)
include built short

theorem Vetted.run (h : Vetted r t) {ops : List Operation}
    (tells : ∀ op ∈ ops, op.Tells Route.InLimits FlowParams.InLimits) : Vetted r (t.run ops) :=
  ⟨h.sound.run (Flow.keeps_shaped built) ops, h.retaining.run short nofun h.sound.plan tells⟩

theorem Vetted.step (h : Vetted r t) {op : Operation}
    (tells : op.Tells Route.InLimits FlowParams.InLimits) : Vetted r (t.step op).2 :=
  h.run built short (List.forall_mem_singleton.2 tells)

theorem vetted_enter : Vetted r (enter r) :=
  ⟨sound_enter (Flow.keeps_shaped built), retaining_enter short nofun⟩

end Runs

end Tour

namespace Service.Host

variable {host : Host}

theorem keeps_vetted (built : host.registry.Built)
    (short : ∀ route ∈ host.registry.routes, route.InLimits) :
    host.Keeps (Tour.Vetted host.registry) where
  opened authenticated plan := by
    have entered := Tour.vetted_enter built short
    cases authenticated with
    | false => exact entered.takeIntents
    | true =>
      rw [welcome_eq]
      exact (entered.run built short (by simp [Operation.Tells])).takeIntents
  operated h requested := (h.step built short (tells_of_requested requested)).takeIntents
  observed h requested := h.step built short (tells_of_requested requested)

/-- Whatever was asked of a server, and by whom, all that its sessions store is within the limits
and nothing in them is foreign. The mount type is short, and so are both routes and their
parameters, as the routes in the tables are (`Registry.builtin_inLimits`). The states are in the
machines, whatever states and events the requests brought, and no feature is planned twice. -/
theorem stored_within_limits (host : Host) (built : host.registry.Built)
    (short : ∀ route ∈ host.registry.routes, route.InLimits) (rs : List Request) :
    ∀ e ∈ (host.respondAll {} rs).2.entries,
      let s := e.2.session.record
      (∀ type, s.params.mountType = some type → type.utf8ByteSize ≤ 128) ∧
      (∀ route, s.route = some route ∨ s.resumeRoute = some route →
        ∀ text ∈ route.name :: route.params, text.utf8ByteSize ≤ 256) ∧
      host.registry.tutorial.contains s.tutorial = true ∧
      (∀ state, s.state = some state ∨ state ∈ s.history →
        ∃ f, s.machine = some f ∧ (host.registry.flow f).contains state = true) ∧
      s.plan.Nodup := by
  intro e mem s
  have fresh : Sessions.Each (Tour.Vetted host.registry) {} := by simp [Sessions.Each]
  obtain ⟨sound, retaining⟩ := (keeps_vetted built short).respondAll fresh rs e mem
  obtain ⟨route, resumeRoute, params⟩ := retaining.session
  refine ⟨params, ?_, sound.tutorial, ?_, sound.plan⟩
  · rintro place (current | remembered)
    · exact route place current
    · exact resumeRoute place remembered
  · intro state stored
    cases running : e.2.session.flow with
    | none => simp [s, Session.record, running] at stored
    | some flow =>
      have shaped := (sound.flow flow running).2
      refine ⟨flow.feature, by simp [s, Session.record, running], ?_⟩
      simp only [s, Session.record, running, Option.map_some, Option.getD_some] at stored
      obtain ⟨⟨⟩⟩ | visited := stored
      · exact shaped.state
      · exact shaped.history state visited

/-- A plan that repeats itself, a claim that is no state, a mount type that is stored, and a route
that only the client knows, which the pause puts aside. -/
theorem stored_within_limits_paused :
    let host : Host := ⟨.builtin, [], 1, none, .any, none⟩
    let json := [("content-type", "application/json")]
    let plan := "\x7b\"features\":[\"secrets\",\"tools\",\"secrets\"]\x7d"
    let foreign := "\x7b\"event\":\"CONTINUE\",\"state\":\"nowhere\"\x7d"
    let forward := "\x7b\"event\":\"CONTINUE\",\"mount_type\":\"kv\"\x7d"
    let rs : List Request := [⟨"POST", "/sessions", json, "\x7b\x7d"⟩,
      ⟨"PUT", "/sessions/1/features", json, plan⟩, ⟨"POST", "/sessions/1/feature", json, foreign⟩,
      ⟨"POST", "/sessions/1/feature", json, forward⟩,
      ⟨"POST", "/sessions/1/route", json, "\x7b\"route\":\"own\",\"params\":[\"a\"]\x7d"⟩,
      ⟨"POST", "/sessions/1/tutorial", json, "\x7b\"event\":\"PAUSE\"\x7d"⟩]
    ∃ e ∈ (host.respondAll {} rs).2.entries,
      e.2.session.params = ⟨some "kv"⟩ ∧ e.2.session.resumeRoute = some ⟨"own", ["a"]⟩ ∧
      "kv".utf8ByteSize ≤ 128 ∧ (∀ text ∈ ["own", "a"], text.utf8ByteSize ≤ 256) ∧
      Registry.builtin.tutorial.contains e.2.session.tutorial = true ∧
      e.2.session.plan.Nodup := by
  intro host json plan foreign forward rs
  have stored : (host.respondAll {} rs).2.entries.map
      (fun e => (e.2.session.params, e.2.session.resumeRoute)) =
        [(⟨some "kv"⟩, some ⟨"own", ["a"]⟩)] := by
    decide +kernel
  obtain ⟨e, only, same⟩ := List.map_eq_singleton_iff.1 stored
  obtain ⟨params, resumeRoute⟩ := Prod.mk.inj same
  have mem : e ∈ (host.respondAll {} rs).2.entries := only ▸ List.mem_singleton_self e
  obtain ⟨mount, places, tutorial, -, nodup⟩ :=
    stored_within_limits host Registry.builtin_built Registry.builtin_inLimits rs e mem
  exact ⟨e, mem, params, resumeRoute, mount _ (congrArg FlowParams.mountType params),
    places _ (.inr resumeRoute), tutorial, nodup⟩

end Service.Host

end GuidedTour
