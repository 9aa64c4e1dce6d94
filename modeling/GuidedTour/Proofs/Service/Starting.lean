import GuidedTour.Config.Load
import GuidedTour.Proofs.Results
import GuidedTour.Service.Server

/-! Which settings start a server. Reading a document checks the features that it names, and
the environment does not touch them, so a plan never keeps a server from starting. The
origins are looked at only when it starts. -/
namespace GuidedTour

namespace Config

/-- Settings of a run: those that it loads, or those of a document under an environment. -/
inductive Loaded : Config → Prop where
  | load {files : Files} {env : Environment} {path : Option String} {config : Config}
      (h : load files env path = .ok config) : Loaded config
  | parse {text : String} {config : Config} (h : parse text = .ok config) (env : Environment) :
      Loaded (config.override env)

theorem parse_of_ofFile {files : Files} {path : String} {config : Config}
    (h : ofFile files path = .ok config) : ∃ text, parse text = .ok config := by
  unfold ofFile at h
  split at h
  · cases h
  · cases h
  · split at h
    · cases h
    · split at h
      · cases h
      · next text _ => exact ⟨text, mapError_eq_ok_iff.1 h⟩

/-- What a run loads is the defaults or a document, under the environment. -/
theorem of_load {files : Files} {env : Environment} {path : Option String} {config : Config}
    (h : load files env path = .ok config) :
    ∃ base : Config, (base = {} ∨ ∃ text, parse text = .ok base) ∧ config = base.override env := by
  unfold load at h
  cases path with
  | none => exact ⟨{}, .inl rfl, (pure_eq_ok_iff.1 h).symm⟩
  | some path =>
    obtain ⟨base, hbase, h⟩ := bind_eq_ok_iff.1 h
    exact ⟨base, .inr (parse_of_ofFile hbase), (pure_eq_ok_iff.1 h).symm⟩

theorem Loaded.plan {config : Config} (h : config.Loaded) : ∃ plan, config.plan = .ok plan := by
  cases h with
  | parse h env =>
    rw [plan_override]
    exact plan_of_parse h
  | load h =>
    obtain ⟨base, origin, rfl⟩ := of_load h
    rw [plan_override]
    obtain rfl | ⟨text, h⟩ := origin
    · exact ⟨[], rfl⟩
    · exact plan_of_parse h

end Config

namespace Service

/-- Origins are taken unless the wildcard has company. -/
theorem Origins.isSome_ofSetting? {setting : Option (List String)} :
    (ofSetting? setting).isSome ↔
      ∀ entries, setting = some entries → wildcard ∈ entries → entries = [wildcard] := by
  cases setting with
  | none => simp [ofSetting?]
  | some entries =>
    by_cases alone : entries = [wildcard]
    · simp [ofSetting?, alone]
    · by_cases listed : wildcard ∈ entries <;> simp [ofSetting?, alone, listed]

namespace Host

variable (registry : Registry) {config : Config}

/-- Once there is a plan, the origins alone decide. -/
theorem start_of_plan {plan : List Feature} (h : config.plan = .ok plan) :
    start registry config = match Origins.ofSetting? config.corsOrigins with
      | some origins =>
        .ok ⟨registry, plan, config.maxSessions, config.apiKey, origins, config.quota?⟩
      | none => .error .wildcardListed := by
  unfold start
  rw [h]
  cases Origins.ofSetting? config.corsOrigins <;> rfl

/-- Settings that were loaded start a server unless the wildcard is one origin of several,
and that is the only fault. -/
theorem start_loaded (h : config.Loaded) :
    ((∃ host, start registry config = .ok host) ↔
      ∀ entries, config.corsOrigins = some entries → Origins.wildcard ∈ entries →
        entries = [Origins.wildcard]) ∧
    ∀ fault, start registry config = .error fault → fault = .wildcardListed := by
  obtain ⟨plan, hplan⟩ := h.plan
  rw [start_of_plan registry hplan, ← Origins.isSome_ofSetting?]
  cases Origins.ofSetting? config.corsOrigins with
  | some origins => exact ⟨by simp, fun _ h => by cases h⟩
  | none => exact ⟨by simp, fun _ h => by cases h; rfl⟩

/-- A wildcard from the environment, with a blank and a comma too many. -/
theorem start_loaded_wildcard :
    ∃ config : Config, Config.load {} { corsOrigins := some " * ," } none = .ok config ∧
      ∃ host, start .builtin config = .ok host := by
  have hload : Config.load {} { corsOrigins := some " * ," } none =
      .ok { corsOrigins := some ["*"] } :=
    eq_ok_of_toOption (by decide +kernel)
  refine ⟨_, hload, (start_loaded .builtin (.load hload)).1.2 fun entries he _ => ?_⟩
  exact (Option.some.inj he).symm

/-- A document that lists the wildcard beside an origin is read, but does not start, and
neither do such origins from the environment. -/
theorem start_crowded :
    (∃ config, Config.parse "[api]\ncors_origins = [\"*\", \"http://a\"]" = .ok config ∧
      start .builtin (config.override {}) = .error .wildcardListed) ∧
    ∃ config, Config.load {} { corsOrigins := some "*,http://a" } none = .ok config ∧
      start .builtin config = .error .wildcardListed :=
  ⟨⟨{ corsOrigins := some ["*", "http://a"] }, eq_ok_of_toOption (by decide +kernel), rfl⟩,
    { corsOrigins := some ["*", "http://a"] }, eq_ok_of_toOption (by decide +kernel), rfl⟩

end Host

end Service

end GuidedTour
