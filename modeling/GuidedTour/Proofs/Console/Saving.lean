import GuidedTour.Proofs.Console.Resuming
import GuidedTour.Proofs.Script.Parsing
import GuidedTour.Proofs.Tour.Resumption
import GuidedTour.Proofs.Tour.Structure

/-! When a saved replay can be loaded. The file holds the session at the end of the replay. Loading
it asks that the path leads to the file that was written, that the file is not too large, and that
the history is within the steps; whatever else is checked holds after every replay, also after one
that was resumed. Nothing bounds what a script may name, and a resumed history may have grown too
long, so neither of the last two goes without saying. -/
namespace GuidedTour

namespace Flow

variable {r : Registry} {flow : Flow}

/-- A flow that fits but for the length of its history. -/
structure Recorded (r : Registry) (flow : Flow) : Prop extends Tracked r flow where
  lasting : ∀ s ∈ flow.history, (r.flow flow.feature).isTerminal s = false

theorem fits_iff : flow.Fits r ↔ flow.Recorded r ∧ Within flow.feature flow.history := by
  constructor
  · intro h
    have known : ∀ s ∈ flow.history, (r.flow flow.feature).contains s = true :=
      fun s mem => (h.recordable s mem).1
    exact ⟨⟨⟨h.state, known, h.ends⟩, fun s mem => (h.recordable s mem).2⟩, h.within⟩
  · rintro ⟨h, within⟩
    exact ⟨h.state, fun s mem => ⟨h.history s mem, h.lasting s mem⟩, h.ends, within⟩

theorem Recorded.moved (h : flow.Recorded r) (event : String) (params : FlowParams) :
    (flow.moved r event (flow.answer r event params)).Recorded r := by
  refine ⟨h.toTracked.moved event params, ?_⟩
  intro s mem
  obtain before | ⟨lasting, rfl⟩ := mem_moved mem
  · exact h.lasting s before
  · exact lasting

theorem keeps_recorded : Registry.builtin.Keeps fun _ flow => flow.Recorded .builtin where
  initial := keeps_held.initial
  begun _ f := (fits_iff.1 (begun_fits f)).1
  tutorial h _ := h
  flow _ h _ := .inl (h.moved _ _)

end Flow

def Session.Within (s : Session) : Prop :=
  ∀ flow, s.flow = some flow → Flow.Within flow.feature flow.history

variable {files saved : Files} {path : String} {s : Session} {t : Tour} {r : Registry}

theorem Session.Fits.within (h : s.Fits r) : s.Within := by
  intro flow hf
  exact (h.flow flow hf).2.within

theorem Tour.Sound.fits_iff (h : Sound r (fun _ flow => flow.Recorded r) t) :
    t.session.Fits r ↔ t.session.Within := by
  refine ⟨Session.Fits.within, fun within => ⟨h.tutorial, h.plan, ?_⟩⟩
  intro flow hf
  obtain ⟨planned, recorded⟩ := h.flow flow hf
  exact ⟨planned, Flow.fits_iff.2 ⟨recorded, within flow hf⟩⟩

namespace Snapshot

theorem fits_of_load (h : load r files path = .ok t) : t.registry = r ∧ t.session.Fits r := by
  unfold load at h
  obtain ⟨bytes, -, h⟩ := bind_eq_ok_iff.1 h
  obtain ⟨record, -, h⟩ := bind_eq_ok_iff.1 h
  rw [mapError_eq_ok_iff] at h
  exact ⟨Tour.registry_of_resume h, Tour.fits_of_resume h⟩

theorem lt_size_content {route : Route} (h : s.route = some route) :
    route.name.utf8ByteSize < (content s).size := by
  have size : (content s).size = (encode s.record).length := by
    simp [content, ByteArray.size]
  rw [size]
  simp [encode, encodePayload, Session.record, h, encodeOption, encodeRoute, encodeText,
    Header.toBytes, magicBytes]
  omega

/-- A session that was written is all that can be loaded. -/
theorem load_write_iff (h : files.write path (content s) = (none, saved)) :
    load r saved path = .ok t ↔ Path.EndsInName path ∧ (content s).size ≤ maxSize ∧ s.Fits r ∧
      t = ⟨r, s, []⟩ := by
  constructor
  · intro loaded
    unfold load at loaded
    obtain ⟨bytes, hb, loaded⟩ := bind_eq_ok_iff.1 loaded
    rw [mapError_eq_ok_iff, Files.read_write_iff h] at hb
    obtain ⟨named, small, rfl⟩ := hb
    obtain ⟨record, hd, loaded⟩ := bind_eq_ok_iff.1 loaded
    rw [mapError_eq_ok_iff] at hd loaded
    cases hd.symm.trans (decode_of_le small)
    obtain ⟨accepted, rfl⟩ := Tour.resume_eq_ok_iff.1 loaded
    refine ⟨named, small, Session.defect?_record_eq_none_iff.1 accepted, ?_⟩
    rw [Record.session_record]
  · rintro ⟨named, small, fits, rfl⟩
    exact load_of_content (Files.read_write named h small) fits small

end Snapshot

namespace Console

variable {env : Environment} {i : Invocation} {script f : String} {resume : Option String}

/-- The tour that a replay starts from. -/
inductive Starts (files : Files) : Option String → Tour → Prop where
  | fresh : Starts files none (Tour.enter .builtin)
  | resumed {path : String} {t : Tour} : Snapshot.load .builtin files path = .ok t →
      Starts files (some path) t

theorem Starts.fits (h : Starts files resume t) :
    t.registry = .builtin ∧ t.session.Fits .builtin := by
  cases h with
  | fresh =>
    have sound := Tour.sound_enter Flow.keeps_walked
    exact ⟨sound.registry, sound.fits fun _ _ walked => walked.fits⟩
  | resumed loaded => exact Snapshot.fits_of_load loaded

theorem Starts.safe_of_fresh (h : Starts files none t) : t.Safe := by
  cases h
  have idle : (Tour.enter .builtin).session.flow = none := by decide +kernel
  refine .inr ?_
  intro flow hf
  rw [idle] at hf
  cases hf

theorem starts_of_replay {replayed : Replay} (h : replay files script resume = .ok replayed) :
    ∃ start steps, Starts files resume start ∧ Script.load files script = .ok steps ∧
      replayed.final = (Script.replay start steps).2 := by
  unfold replay at h
  obtain ⟨steps, loaded, h⟩ := bind_eq_ok_iff.1 h
  rw [mapError_eq_ok_iff] at loaded
  cases resume with
  | none =>
    cases h
    exact ⟨_, steps, .fresh, loaded, rfl⟩
  | some path =>
    obtain ⟨start, back, h⟩ := bind_eq_ok_iff.1 h
    rw [mapError_eq_ok_iff] at back
    cases h
    exact ⟨start, steps, .resumed back, loaded, rfl⟩

theorem replay_of_runReplay {asJson verbose : Bool} {save : Option String}
    (success : (runReplay files asJson verbose script resume save).fault = none) :
    ∃ replayed, replay files script resume = .ok replayed := by
  unfold runReplay at success
  cases done : replay files script resume with
  | error fault =>
    rw [done] at success
    cases success
  | ok replayed => exact ⟨replayed, rfl⟩

theorem write_of_run
    (saves : (run files env { i with command := .replay script resume (some f) }).fault = none) :
    ∃ replayed, replay files script resume = .ok replayed ∧
      files.write f (Snapshot.content replayed.final.session) =
        (none, (run files env { i with command := .replay script resume (some f) }).files) := by
  cases config : Config.load files env i.config with
  | error fault =>
    unfold run at saves
    rw [config] at saves
    cases saves
  | ok settings =>
    rw [run_replay_of_settings config] at saves ⊢
    obtain ⟨r, replayed⟩ := replay_of_runReplay saves
    exact ⟨r, replayed, write_of_runReplay replayed saves⟩

theorem fault_progress_iff {settings : Config}
    (config : Config.load files env i.config = .ok settings) :
    (run files env { i with command := .progress f }).fault = none ↔
      ∃ t, Snapshot.load .builtin files f = .ok t := by
  rw [run_progress_of_settings config]
  unfold runProgress
  cases Snapshot.load .builtin files f <;> simp

theorem fault_resume_iff {settings : Config} {steps : List Script.Step}
    (config : Config.load files env i.config = .ok settings)
    (loads : Script.load files script = .ok steps) :
    (run files env { i with command := .replay script (some f) none }).fault = none ↔
      ∃ t, Snapshot.load .builtin files f = .ok t := by
  rw [run_replay_of_settings config]
  constructor
  · intro success
    obtain ⟨r, replayed⟩ := replay_of_runReplay success
    obtain ⟨start, _, starts, -, -⟩ := starts_of_replay replayed
    cases starts with
    | resumed back => exact ⟨start, back⟩
  · rintro ⟨t, back⟩
    rw [runReplay_of_replay (replay_resumed loads back)]

/-- What a replay from anywhere leads to is accepted again if its history is short enough. -/
theorem Starts.fits_replay_iff (h : Starts files resume t) (steps : List Script.Step) :
    (Script.replay t steps).2.session.Fits .builtin ↔
      (Script.replay t steps).2.session.Within := by
  obtain ⟨registry, fits⟩ := h.fits
  have sound : Tour.Sound .builtin (fun _ flow => flow.Recorded .builtin) t :=
    Tour.sound_of_fits registry fits fun flow hf => (Flow.fits_iff.1 (fits.flow flow hf).2).1
  exact (Script.sound_after_replay Flow.keeps_recorded sound steps).fits_iff

theorem Starts.within_replay (h : Starts files resume t) (safe : t.Safe)
    (steps : List Script.Step) : (Script.replay t steps).2.session.Within := by
  obtain ⟨registry, fits⟩ := h.fits
  have sound := Script.sound_after_replay Flow.keeps_held (safe.sound registry fits) steps
  exact (sound.fits fun _ _ held => held.1).within

/-- A replay that succeeds in saving can be loaded exactly if the path ends in a name, the snapshot
is not too large, and the history of its last session is within the steps, which it is after a
fresh start and after any other that is safe. It comes back as it was, and then, and only then,
figures are reported for it and further scripts are replayed from it. -/
theorem run_saved
    (saves : (run files env { i with command := .replay script resume (some f) }).fault = none) :
    let saved := (run files env { i with command := .replay script resume (some f) }).files
    ∃ start steps, Starts files resume start ∧ Script.load files script = .ok steps ∧
      let last := (Script.replay start steps).2.session
      let Loads := Path.EndsInName f ∧ (Snapshot.content last).size ≤ Snapshot.maxSize ∧ last.Within
      (resume = none → start.Safe) ∧ (start.Safe → last.Within) ∧
      (∀ t, Snapshot.load .builtin saved f = .ok t ↔ Loads ∧ t = ⟨.builtin, last, []⟩) ∧
      ∀ (later : Environment) (j : Invocation) (settings : Config),
        Config.load saved later j.config = .ok settings →
          ((run saved later { j with command := .progress f }).fault = none ↔ Loads) ∧
          ∀ next more, Script.load saved next = .ok more →
            ((run saved later { j with command := .replay next (some f) none }).fault = none ↔
              Loads) := by
  intro saved
  obtain ⟨replayed, done, written⟩ := write_of_run saves
  obtain ⟨start, steps, starts, loaded, final⟩ := starts_of_replay done
  rw [final] at written
  refine ⟨start, steps, starts, loaded, ?_⟩
  intro last Loads
  have loads : ∀ t, Snapshot.load .builtin saved f = .ok t ↔ Loads ∧ t = ⟨.builtin, last, []⟩ := by
    intro t
    rw [Snapshot.load_write_iff written, starts.fits_replay_iff steps]
    simp only [Loads, and_assoc]
    rfl
  have some_load : (∃ t, Snapshot.load .builtin saved f = .ok t) ↔ Loads := by
    simp only [loads, exists_and_left, exists_eq, and_true]
  refine ⟨?_, fun safe => starts.within_replay safe steps, loads, ?_⟩
  · rintro rfl
    exact starts.safe_of_fresh
  · intro later j settings config
    refine ⟨(fault_progress_iff config).trans some_load, ?_⟩
    intro next more loadsNext
    exact (fault_resume_iff config loadsNext).trans some_load

theorem run_saved_scripts :
    (run scripts {} { command := .replay "a" none (some "f") }).fault = none ∧
      ∃ t, Snapshot.load .builtin
        (run scripts {} { command := .replay "a" none (some "f") }).files "f" = .ok t := by
  have saves : (run scripts {} { command := .replay "a" none (some "f") }).fault = none := by
    decide +kernel
  obtain ⟨start, steps, starts, loaded, safe, within, loads, -⟩ := run_saved (i := {}) saves
  cases starts
  cases loaded.symm.trans load_scripts_a
  refine ⟨saves, _, (loads _).2 ⟨⟨by decide, by decide +kernel, within (safe rfl)⟩, rfl⟩⟩

section LongRoute

variable {name : String}

def routeFolder (name : String) : Files where
  entries := [(["a"], .file (Script.routeText name).toUTF8)]

theorem load_routeFolder (plain : ∀ c ∈ name.toList, Json.IsPlain c)
    (short : (Script.routeText name).utf8ByteSize ≤ Script.maxFileBytes) :
    Script.load (routeFolder name) "a" = .ok [.route ⟨name, []⟩] := by
  have stands : (routeFolder name).entryAt "a" = .ok (.file (Script.routeText name).toUTF8) := rfl
  have decoded : Text.Utf8.decode (Script.routeText name).toUTF8 =
      .ok (Script.routeText name) := by
    have back : String.fromUTF8? (Script.routeText name).toUTF8 = some (Script.routeText name) :=
      dif_pos (Script.routeText name).isValidUTF8
    unfold Text.Utf8.decode
    rw [back]
  refine bind_eq_ok_iff.2 ⟨_, mapError_eq_ok_iff.2 (Files.read_eq_ok_iff.2 ⟨stands, short⟩), ?_⟩
  refine bind_eq_ok_iff.2 ⟨_, mapError_eq_ok_iff.2 decoded, ?_⟩
  exact mapError_eq_ok_iff.2 (Script.parse_routeText plain)

/-- A route whose name alone has the size of the largest snapshot is saved, but not loaded. -/
theorem saved_routeFolder (plain : ∀ c ∈ name.toList, Json.IsPlain c)
    (short : (Script.routeText name).utf8ByteSize ≤ Script.maxFileBytes)
    (long : Snapshot.maxSize ≤ name.utf8ByteSize) :
    let last := (Script.replay (Tour.enter .builtin) [.route ⟨name, []⟩]).2.session
    let ran := run (routeFolder name) {} { command := .replay "a" none (some "f") }
    ran.fault = none ∧ Snapshot.load .builtin ran.files "f" =
      .error (.file (.tooLarge (Snapshot.content last).size Snapshot.maxSize)) := by
  intro last ran
  have done := replay_fresh (load_routeFolder plain short)
  have saves : ran.fault = none := by
    have written (bytes : ByteArray) : (routeFolder name).write "f" bytes =
        (none, (routeFolder name).put ["f"] (.file bytes)) := by
      have opened : (routeFolder name).outlet "f" = .ok ["f"] := rfl
      have all : (routeFolder name).taken bytes = bytes := rfl
      unfold Files.write
      simp only [opened, all, Nat.lt_irrefl, if_false]
    change (runReplay (routeFolder name) false false "a" none (some "f")).fault = none
    unfold runReplay
    rw [done]
    simp only [keep, written]
    rfl
  obtain ⟨replayed, again, put⟩ := write_of_run (i := {}) saves
  cases done.symm.trans again
  have stands := Files.entryAt_write (by decide) put
  have route : last.route = some ⟨name, []⟩ := rfl
  have large := Nat.lt_of_le_of_lt long (Snapshot.lt_size_content route)
  refine ⟨saves, ?_⟩
  unfold Snapshot.load
  rw [Files.read_of_lt stands large]
  rfl

def letters (n : Nat) : String := String.ofList (List.replicate n 'a')

theorem utf8ByteSize_letters (n : Nat) : (letters n).utf8ByteSize = n := by
  unfold letters
  induction n with
  | zero => rfl
  | succ n ih =>
    have one : (String.ofList ['a']).utf8ByteSize = 1 := by decide
    rw [List.replicate_succ, ← List.singleton_append, String.ofList_append,
      String.utf8ByteSize_append, ih, one]
    omega

-- The number stays a variable here: nothing may count the letters one by one.
theorem saved_letters {n : Nat} (long : Snapshot.maxSize ≤ n)
    (short : n + 27 ≤ Script.maxFileBytes) :
    let ran := run (routeFolder (letters n)) {} { command := .replay "a" none (some "f") }
    ran.fault = none ∧ ∀ t, Snapshot.load .builtin ran.files "f" ≠ .ok t := by
  intro ran
  have plain : ∀ c ∈ (letters n).toList, Json.IsPlain c := by
    intro c mem
    rw [letters, String.toList_ofList] at mem
    rw [List.eq_of_mem_replicate mem]
    decide
  have front : "[\x7b\"op\":\"route\",\"route\":\"".utf8ByteSize = 24 := by decide +kernel
  have back : "\"\x7d]".utf8ByteSize = 3 := by decide +kernel
  have size := utf8ByteSize_letters n
  have text : (Script.routeText (letters n)).utf8ByteSize ≤ Script.maxFileBytes := by
    unfold Script.routeText
    rw [String.utf8ByteSize_append, String.utf8ByteSize_append, size, front, back]
    omega
  obtain ⟨saves, refused⟩ := saved_routeFolder plain text (by omega)
  refine ⟨saves, ?_⟩
  intro t loaded
  cases refused.symm.trans loaded

/-- A replay of one step that is saved, but cannot be loaded. -/
theorem saved_long_route :
    let ran := run (routeFolder (letters 65536)) {} { command := .replay "a" none (some "f") }
    ran.fault = none ∧ ∀ t, Snapshot.load .builtin ran.files "f" ≠ .ok t :=
  saved_letters (by decide) (by decide)

end LongRoute

/-- A folder with a script of one event and a session that this event leads too far. -/
def crowdedFolder : Files where
  entries := [
    (["a"], .file "[\x7b\"op\":\"feature\",\"event\":\"CONTINUE\"\x7d]".toUTF8),
    (["b"], .file (Snapshot.content Tour.crowdedRecord.session))]

example :
    let ran := run crowdedFolder {} { command := .replay "a" (some "b") (some "f") }
    ran.fault = none ∧ (run ran.files {} { command := .progress "f" }).fault =
      some (.snapshot (.record (.historyTooLong 5 4 .authentication))) := by
  decide +kernel

end Console

end GuidedTour
