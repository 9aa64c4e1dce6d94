import GuidedTour.Proofs.Console.Saving

/-! What a run does to the files. A run that succeeds changes them only if it is a replay that
saves, and then only the file that it saves to, which may be the script or the snapshot that it
started from: both were read before. A run that fails leaves the files as they were, unless it fails in the
middle of writing that file: what it held is lost by then. What is printed, and so every flag, makes
no difference to the files. -/
namespace GuidedTour.Console

variable {files : Files} {script : String} {resume save : Option String}

/-- Two runs that differ at most in what they print. -/
structure Result.Alike (r s : Result) : Prop where
  fault : r.fault = s.fault
  files : r.files = s.files
  serving : r.serving = s.serving

@[simp] theorem Result.Alike.refl (r : Result) : r.Alike r := ⟨rfl, rfl, rfl⟩

theorem alike_runReplay (asJson verbose asJson' verbose' : Bool) :
    (runReplay files asJson verbose script resume save).Alike
      (runReplay files asJson' verbose' script resume save) := by
  unfold runReplay
  cases replay files script resume with
  | error fault => exact .refl _
  | ok r =>
    dsimp only
    cases keep files save r.final with
    | mk fault saved => cases fault <;> exact ⟨rfl, rfl, rfl⟩

theorem alike_runProgress (asJson asJson' : Bool) (snapshot : String) :
    (runProgress files asJson snapshot).Alike (runProgress files asJson' snapshot) := by
  unfold runProgress
  cases Snapshot.load .builtin files snapshot <;> exact ⟨rfl, rfl, rfl⟩

/-- The settings and the command decide, the flags do not. -/
theorem alike_run (env : Environment) {i j : Invocation} (config : j.config = i.config)
    (command : j.command = i.command) : (run files env j).Alike (run files env i) := by
  unfold run
  rw [config, command]
  cases Config.load files env i.config with
  | error fault => exact .refl _
  | ok settings =>
    cases i.command with
    | validate | machines => exact ⟨rfl, rfl, rfl⟩
    | server host port => exact .refl _
    | replay script resume save => exact alike_runReplay _ _ _ _
    | progress snapshot => exact alike_runProgress _ _ snapshot

theorem replay_ne_save {fault : Files.WriteFault} :
    replay files script resume ≠ .error (.save fault) := by
  unfold replay
  intro h
  cases loaded : Script.load files script with
  | error _ =>
    rw [loaded] at h
    cases h
  | ok steps =>
    rw [loaded] at h
    cases resume with
    | none => cases h
    | some path =>
      cases back : Snapshot.load .builtin files path with
      | error _ =>
        simp only [back] at h
        cases h
      | ok t =>
        simp only [back] at h
        cases h

/-- A run that has nothing to write, or did not get so far. -/
structure Result.Idle (r : Result) (files : Files) : Prop where
  files : r.files = files
  fault : ∀ fault, r.fault ≠ some (.save fault)

theorem idle_runServer (config : Config) (host : Option String) (port : Option Nat) :
    (runServer files config host port).Idle files := by
  unfold runServer
  dsimp only
  split
  · exact ⟨rfl, nofun⟩
  · split <;> exact ⟨rfl, nofun⟩

theorem idle_runProgress (asJson : Bool) (snapshot : String) :
    (runProgress files asJson snapshot).Idle files := by
  unfold runProgress
  cases Snapshot.load .builtin files snapshot <;> exact ⟨rfl, nofun⟩

/-- Files change only at the end of a replay that saves, when all else that can fail is over. -/
theorem idle_runReplay (files : Files) (asJson verbose : Bool) (script : String)
    (resume save : Option String) :
    let ran := runReplay files asJson verbose script resume save
    ran.Idle files ∨ ∃ path replayed, save = some path ∧
      replay files script resume = .ok replayed ∧
      let written := files.write path (Snapshot.content replayed.final.session)
      ran.fault = written.1.map .save ∧ ran.files = written.2 := by
  intro ran
  cases replayed : replay files script resume with
  | error fault =>
    unfold ran runReplay
    rw [replayed]
    refine .inl ⟨rfl, ?_⟩
    rintro write same
    cases same
    exact replay_ne_save replayed
  | ok r =>
    cases save with
    | none =>
      unfold ran
      rw [runReplay_of_replay replayed]
      exact .inl ⟨rfl, nofun⟩
    | some path => exact .inr ⟨path, r, rfl, rfl, runReplay_write asJson verbose path replayed⟩

/-- What a run comes to that is not idle: a script was replayed, and its last session written. -/
theorem idle_run (files : Files) (env : Environment) (i : Invocation) :
    let ran := run files env i
    ran.Idle files ∨ ∃ script resume path start steps fault,
      i.command = .replay script resume (some path) ∧ Starts files resume start ∧
      Script.load files script = .ok steps ∧
      files.write path (Snapshot.content (start.run (steps.map Script.Step.operation)).session) =
        (fault, ran.files) ∧
      ran.fault = fault.map .save := by
  unfold run
  cases Config.load files env i.config with
  | error fault => exact .inl ⟨rfl, nofun⟩
  | ok settings =>
    cases i.command with
    | validate | machines => exact .inl ⟨rfl, nofun⟩
    | server host port => exact .inl (idle_runServer settings host port)
    | progress snapshot => exact .inl (idle_runProgress i.jsonMode snapshot)
    | replay script resume save =>
      obtain idle | ⟨path, replayed, rfl, done, fault, saved⟩ :=
        idle_runReplay files i.jsonMode i.verbose script resume save
      · exact .inl idle
      · obtain ⟨start, steps, starts, loaded, final⟩ := starts_of_replay done
        rw [final, Script.session_after_replay] at fault saved
        exact .inr ⟨script, resume, path, start, steps, _, rfl, starts, loaded,
          Prod.ext rfl saved.symm, fault⟩

theorem changed_of_run {env : Environment} {i : Invocation} {path : String}
    (saves : (run files env { i with command := .replay script resume (some path) }).fault = none) :
    ∃ start steps place, Starts files resume start ∧ Script.load files script = .ok steps ∧
      files.Leads path place ∧
      let content := Snapshot.content (start.run (steps.map Script.Step.operation)).session
      let saved := (run files env { i with command := .replay script resume (some path) }).files
      files.Changed place content saved ∧
        (Path.EndsInName path → saved.entryAt path = .ok (.file content)) := by
  obtain ⟨replayed, done, written⟩ := write_of_run saves
  obtain ⟨start, steps, starts, loaded, final⟩ := starts_of_replay done
  rw [final, Script.session_after_replay] at written
  obtain ⟨place, leads, changed⟩ := Files.changed_of_write written
  exact ⟨start, steps, place, starts, loaded, leads, changed,
    fun named => Files.entryAt_write named written⟩

/-- A run that succeeds does to the files what it is to do, whatever arguments asked for it: only a
replay that saves changed them, and only in the place that its path leads to. There the file holds
the session that all the steps of the script led to, from a new session or from the saved one; a
path that ends in a name leads back to it. A run that fails leaves the files as they were, with one
exception: if the disk is too full for what is to be saved, only the front of it stands in that
place, and what the file held before is lost. Neither the fault nor the files depend on the flags. -/
theorem run_confined (files : Files) (env : Environment) (i : Invocation) :
    let ran := run files env i
    (∀ fault, ran.fault = some fault → fault ≠ .save (.refused .noSpace) → ran.files = files) ∧
    (ran.fault = some (.save (.refused .noSpace)) → ∃ script resume path start steps place bytes,
      i.command = .replay script resume (some path) ∧ Starts files resume start ∧
      Script.load files script = .ok steps ∧ files.Leads path place ∧ files.room = some bytes ∧
      let content := Snapshot.content (start.run (steps.map Script.Step.operation)).session
      bytes < content.size ∧ files.Changed place (content.extract 0 bytes) ran.files) ∧
    (ran.fault = none → match i.command with
      | .replay script resume (some path) => ∃ start steps place,
          Starts files resume start ∧ Script.load files script = .ok steps ∧
          files.Leads path place ∧
          let content := Snapshot.content (start.run (steps.map Script.Step.operation)).session
          files.Changed place content ran.files ∧
            (Path.EndsInName path → ran.files.entryAt path = .ok (.file content))
      | _ => ran.files = files) ∧
    ∀ j : Invocation, j.config = i.config → j.command = i.command →
      (run files env j).Alike ran := by
  intro ran
  refine ⟨?_, ?_, ?_, fun j config command => alike_run env config command⟩
  · intro fault fails other
    obtain idle | ⟨script, resume, path, start, steps, refused, -, -, -, written, failed⟩ :=
      idle_run files env i
    · exact idle.files
    · rw [fails, eq_comm, Option.map_eq_some_iff] at failed
      obtain ⟨refused, rfl, rfl⟩ := failed
      exact Files.write_refused written fun same => other (congrArg _ same)
  · intro fails
    obtain idle | ⟨script, resume, path, start, steps, refused, command, starts, loaded, written,
      failed⟩ := idle_run files env i
    · exact absurd fails (idle.fault _)
    · rw [fails, eq_comm, Option.map_eq_some_iff] at failed
      obtain ⟨refused, rfl, same⟩ := failed
      cases same
      obtain ⟨place, bytes, leads, room, large, changed⟩ := Files.write_cut written
      exact ⟨script, resume, path, start, steps, place, bytes, command, starts, loaded, leads, room,
        large, changed⟩
  · intro success
    split
    · rename_i script resume path command
      have asked : i = { i with command := .replay script resume (some path) } := by rw [← command]
      unfold ran at success ⊢
      rw [asked] at success ⊢
      exact changed_of_run success
    · rename_i other
      obtain idle | ⟨script, resume, path, -, -, -, command, -⟩ := idle_run files env i
      · exact idle.files
      · exact absurd command (other script resume path)

/-- A replay may save over its own script. -/
theorem run_confined_scripts :
    let ran := run scripts {} { command := .replay "a" none (some "a") }
    ran.fault = none ∧
      ran.files.entryAt "a" =
        .ok (.file (Snapshot.content ((Tour.enter .builtin).run [.restart]).session)) ∧
      ran.files.entryAt "b" = scripts.entryAt "b" := by
  intro ran
  have success : ran.fault = none := by decide +kernel
  obtain ⟨-, -, saves, -⟩ := run_confined scripts {} { command := .replay "a" none (some "a") }
  obtain ⟨start, steps, place, starts, loaded, leads, changed, stands⟩ := saves success
  cases starts
  cases loaded.symm.trans load_scripts_a
  refine ⟨success, stands (by decide), changed.entryAt "b" ["b"] rfl ?_⟩
  rintro rfl
  obtain ⟨folder, name, -, isName, same⟩ := leads
  cases same
  revert isName
  decide

/-- On a full disk a replay that saves over its own script fails, and the script is lost. A path
that ends in a slash can be saved to, and then leads to no file. -/
theorem run_cut_short :
    let full := { scripts with room := some 3 }
    let cut := run full {} { command := .replay "a" none (some "a") }
    let ran := run scripts {} { command := .replay "a" none (some "f/") }
    cut.fault = some (.save (.refused .noSpace)) ∧
      full.entryAt "a" = .ok (.file "[\x7b\"op\":\"restart\"\x7d]".toUTF8) ∧
      cut.files.entryAt "a" = .ok (.file "VWI".toUTF8) ∧
      ran.fault = none ∧ scripts.find? ["f"] = none ∧ (ran.files.find? ["f"]).isSome = true ∧
      (ran.files.entryAt "f/").toOption = none :=
  ⟨by decide +kernel, eq_ok_of_toOption (by decide +kernel),
    eq_ok_of_toOption (by decide +kernel), by decide +kernel, by decide +kernel,
    by decide +kernel, by decide +kernel⟩

end GuidedTour.Console
