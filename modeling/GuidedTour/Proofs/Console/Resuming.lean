import GuidedTour.Console.Run
import GuidedTour.Proofs.Files.Saving
import GuidedTour.Proofs.Flow.Walks
import GuidedTour.Proofs.Script.Replaying
import GuidedTour.Proofs.Snapshot.RoundTrip

/-! A replay cut in two. Saving after the first part and resuming for the second changes
nothing: the saved session is accepted again and comes back as it was, and the queue of
intents, which is not saved, is empty after every step. -/
namespace GuidedTour

variable {files saved other : Files} {path : String} {s : Session}

/-- A file with the bytes of a session that fits brings it back. -/
theorem Snapshot.load_of_content {r : Registry} (h : files.read maxSize path = .ok (content s))
    (fits : s.Fits r) (small : (content s).size ≤ maxSize) :
    load r files path = .ok ⟨r, s, []⟩ := by
  refine bind_eq_ok_iff.2 ⟨_, mapError_eq_ok_iff.2 h, ?_⟩
  refine bind_eq_ok_iff.2 ⟨_, mapError_eq_ok_iff.2 (decode_of_le small), ?_⟩
  exact mapError_eq_ok_iff.2 (Tour.resume_record fits)

/-- A session that a script reached fits. -/
theorem Script.fits_after_replay (steps : List Script.Step) :
    (replay (Tour.enter .builtin) steps).2.session.Fits .builtin := by
  have sound := sound_after_replay Flow.keeps_walked (Tour.sound_enter Flow.keeps_walked) steps
  exact sound.fits fun _ _ walked => walked.fits

/-- A session saved after a script with a step in it is resumed as it was. -/
theorem Script.load_after_replay {steps : List Script.Step} (nonempty : steps ≠ [])
    (named : Path.EndsInName path)
    (h : files.write path (Snapshot.content (replay (Tour.enter .builtin) steps).2.session) =
      (none, saved))
    (small : (Snapshot.content (replay (Tour.enter .builtin) steps).2.session).size ≤
      Snapshot.maxSize) :
    Snapshot.load .builtin saved path = .ok (replay (Tour.enter .builtin) steps).2 := by
  have back := Snapshot.load_of_content (Files.read_write named h small)
    (fits_after_replay steps) small
  have sound := sound_after_replay Flow.keeps_walked (Tour.sound_enter Flow.keeps_walked) steps
  have same (t : Tour) (hr : t.registry = .builtin) (hi : t.intents = []) :
      Tour.mk .builtin t.session [] = t := by
    rw [← hr, ← hi]
  rw [back, same _ sound.registry (intents_after_replay_of_ne_nil nonempty)]

namespace Console

variable {env : Environment} {i : Invocation} {script : String} {resume save : Option String}

/-- All that a replay prints. -/
def Replay.printed (r : Replay) (asJson verbose : Bool) : String :=
  (if asJson then "" else unlines (Report.replayLines verbose r.log)) ++
    if asJson then document (Report.replayJson r.log r.final.session.record)
    else "\n" ++ Report.progress r.final.session.record false

section Settings

variable {settings : Config}

theorem load_settings_of_none (config : i.config = none) :
    ∃ settings, Config.load files env i.config = .ok settings := by
  rw [config]
  exact ⟨_, rfl⟩

/-- Once the settings are loaded the command alone decides. -/
theorem run_replay_of_settings (h : Config.load files env i.config = .ok settings) :
    run files env { i with command := .replay script resume save } =
      runReplay files i.jsonMode i.verbose script resume save := by
  unfold run
  simp only [h]

theorem run_progress_of_settings (h : Config.load files env i.config = .ok settings) :
    run files env { i with command := .progress path } =
      runProgress files i.jsonMode path := by
  unfold run
  simp only [h]

end Settings

theorem run_replay (config : i.config = none) :
    run files env { i with command := .replay script resume save } =
      runReplay files i.jsonMode i.verbose script resume save := by
  obtain ⟨settings, h⟩ := load_settings_of_none config
  exact run_replay_of_settings h

theorem run_progress (config : i.config = none) :
    run files env { i with command := .progress path } =
      runProgress files i.jsonMode path := by
  obtain ⟨settings, h⟩ := load_settings_of_none config
  exact run_progress_of_settings h

theorem replay_fresh {steps : List Script.Step} (h : Script.load files script = .ok steps) :
    replay files script none = .ok ⟨(Script.replay (Tour.enter .builtin) steps).1,
      (Script.replay (Tour.enter .builtin) steps).2⟩ :=
  bind_eq_ok_iff.2 ⟨steps, mapError_eq_ok_iff.2 h, rfl⟩

theorem replay_resumed {steps : List Script.Step} {t : Tour}
    (h : Script.load files script = .ok steps)
    (back : Snapshot.load .builtin files path = .ok t) :
    replay files script (some path) =
      .ok ⟨(Script.replay t steps).1, (Script.replay t steps).2⟩ := by
  refine bind_eq_ok_iff.2 ⟨steps, mapError_eq_ok_iff.2 h, ?_⟩
  exact bind_eq_ok_iff.2 ⟨t, mapError_eq_ok_iff.2 back, rfl⟩

theorem runReplay_of_replay {r : Replay} {asJson verbose : Bool}
    (h : replay files script resume = .ok r) :
    runReplay files asJson verbose script resume none =
      ⟨r.printed asJson verbose, none, files, none⟩ := by
  unfold runReplay
  rw [h]
  rfl

/-- A replay that saves fails if the write does, and leaves the files as the write does. -/
theorem runReplay_write {r : Replay} (asJson verbose : Bool) (path : String)
    (h : replay files script resume = .ok r) :
    let ran := runReplay files asJson verbose script resume (some path)
    let written := files.write path (Snapshot.content r.final.session)
    ran.fault = written.1.map .save ∧ ran.files = written.2 := by
  unfold runReplay keep
  rw [h]
  dsimp only
  cases files.write path (Snapshot.content r.final.session) with
  | mk fault saved => cases fault <;> exact ⟨rfl, rfl⟩

/-- A replay that succeeds has written its last session. -/
theorem write_of_runReplay {r : Replay} {asJson verbose : Bool}
    (h : replay files script resume = .ok r)
    (success : (runReplay files asJson verbose script resume (some path)).fault = none) :
    files.write path (Snapshot.content r.final.session) =
      (none, (runReplay files asJson verbose script resume (some path)).files) := by
  obtain ⟨fault, saved⟩ := runReplay_write asJson verbose path h
  rw [success, eq_comm, Option.map_eq_none_iff] at fault
  rw [saved, ← fault]

/-- A script can be cut after any step. The first part is replayed and saved to a path that
ends in a name; if the snapshot is not too large, the second part is then resumed from it, and
its log and the last tour are those of the whole script. The figures reported for the saved
session are those of the session at the cut. -/
theorem run_resumed {a b ab f : String} {first second : List Script.Step}
    (config : i.config = none) (loads : Script.load files a = .ok first) (nonempty : first ≠ [])
    (saves : (run files env { i with command := .replay a none (some f) }).fault = none)
    (named : Path.EndsInName f)
    (small : (Snapshot.content (Script.replay (Tour.enter .builtin) first).2.session).size ≤
      Snapshot.maxSize)
    (loadsSecond : Script.load (run files env
      { i with command := .replay a none (some f) }).files b = .ok second)
    (loadsWhole : Script.load other ab = .ok (first ++ second)) :
    let saved := (run files env { i with command := .replay a none (some f) }).files
    let cut := Script.replay (Tour.enter .builtin) first
    ∃ resumed whole : Replay,
      replay saved b (some f) = .ok resumed ∧ replay other ab none = .ok whole ∧
      resumed.log.map (·.step) = second ∧ whole.log = cut.1 ++ resumed.log ∧
      whole.final = resumed.final ∧
      ∀ j : Invocation, j.config = none →
        run saved env { j with command := .replay b (some f) none } =
          ⟨resumed.printed j.jsonMode j.verbose, none, saved, none⟩ ∧
        run other env { j with command := .replay ab none none } =
          ⟨whole.printed j.jsonMode j.verbose, none, other, none⟩ ∧
        run saved env { j with command := .progress f } =
          ⟨Report.progress cut.2.session.record j.jsonMode, none, saved, none⟩ := by
  rw [run_replay config] at saves loadsSecond ⊢
  intro saved cut
  have written := write_of_runReplay (replay_fresh loads) saves
  have back : Snapshot.load .builtin saved f = .ok cut.2 :=
    Script.load_after_replay nonempty named written small
  have resumed := replay_resumed loadsSecond back
  have whole := replay_fresh loadsWhole
  rw [Script.replay_append] at whole
  refine ⟨_, _, resumed, whole, Script.map_step_replay _ _, rfl, rfl, fun j config => ?_⟩
  rw [run_replay config, run_replay config, run_progress config]
  refine ⟨runReplay_of_replay resumed, runReplay_of_replay whole, ?_⟩
  unfold runProgress
  rw [back]

/-- A folder with two scripts and the script that they make up together. -/
def scripts : Files where
  entries := [
    (["a"], .file "[\x7b\"op\":\"restart\"\x7d]".toUTF8),
    (["b"], .file "[\x7b\"op\":\"reset\"\x7d]".toUTF8),
    (["ab"], .file "[\x7b\"op\":\"restart\"\x7d,\x7b\"op\":\"reset\"\x7d]".toUTF8)]

theorem load_scripts_a : Script.load scripts "a" = .ok [.restart] :=
  eq_ok_of_toOption (by decide +kernel)

theorem load_scripts_ab : Script.load scripts "ab" = .ok ([.restart] ++ [.reset]) :=
  eq_ok_of_toOption (by decide +kernel)

theorem run_resumed_scripts :
    (run scripts {} { command := .replay "a" none (some "f") }).fault = none ∧
      ∃ resumed : Replay, resumed.log.map (·.step) = [.reset] ∧
        replay (run scripts {} { command := .replay "a" none (some "f") }).files "b" (some "f") =
          .ok resumed := by
  have saves : (run scripts {} { command := .replay "a" none (some "f") }).fault = none := by
    decide +kernel
  obtain ⟨resumed, whole, replayed, -, steps, -⟩ := run_resumed (i := {}) rfl
    load_scripts_a (List.cons_ne_nil _ _) saves (by decide) (by decide +kernel) (b := "b")
    (eq_ok_of_toOption (by decide +kernel)) load_scripts_ab
  exact ⟨saves, resumed, steps, replayed⟩

/-- A path that ends in a slash can be saved to, but not resumed from. -/
theorem run_resumed_slash :
    Script.load scripts "a" = .ok [.restart] ∧
      Script.load scripts "ab" = .ok ([.restart] ++ [.reset]) ∧
      (Snapshot.content (Script.replay (Tour.enter .builtin) [.restart]).2.session).size ≤
        Snapshot.maxSize ∧
      (run scripts {} { command := .replay "a" none (some "f/") }).fault = none ∧
      (run (run scripts {} { command := .replay "a" none (some "f/") }).files {}
        { command := .replay "b" (some "f/") none }).fault =
          some (.snapshot (.file (.noPath "f/" .notFolder))) :=
  ⟨load_scripts_a, load_scripts_ab, by decide +kernel, by decide +kernel, by decide +kernel⟩

end Console

end GuidedTour
