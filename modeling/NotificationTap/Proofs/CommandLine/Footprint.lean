import NotificationTap.Proofs.CommandLine.PayloadSource
import NotificationTap.Proofs.CommandLine.Printing
import NotificationTap.Proofs.CommandLine.Stages

/-!
# What a run leaves behind

* `changedFile?`: the settings file that a command line asks to change.
* `ChangeFrame`: what a change of settings may leave behind.
* `execute_changeSettings_frame`: what the one command that changes anything leaves behind.
* `run_footprint`: a run that fails prints nothing and leaves all files as they were. Only a change
  of settings leaves anything behind: its own file, and directories around that file.
-/

namespace NotificationTap.CommandLine

/-- The settings file that a command line asks to change, if it asks for a change. -/
def changedFile? (env : Environment) (arguments : List String) : Option FilePath :=
  match Invocation.ofArguments? arguments with
  | some ⟨config?, .changeSettings _⟩ => some (config?.getD env.settingsPath)
  | _ => none

/-- What a change of settings may leave behind: the file that the path leads to if it succeeds, and
no file if it fails. Either way directories may have been added on the way to that file. -/
def ChangeFrame (path : FilePath) (outcome : Outcome) (before after : Disk) : Prop :=
  if outcome.exitCode = 0 then
    ∃ target, after.find path = .ok target ∧ Disk.WriteFrame path (some target) before after
  else Disk.WriteFrame path none before after

variable {env : Environment} {arguments : List String} {stdin : ByteArray} {disk : Disk}
  {store : SettingsStore} {command : Command} {error : RunError}

/-! ## One command -/

theorem ChangeFrame.refl {outcome : Outcome} (h : outcome.exitCode ≠ 0) (path : FilePath)
    (disk : Disk) : ChangeFrame path outcome disk disk := by
  rw [ChangeFrame, if_neg h]
  exact (Disk.Grown.refl _ disk).writeFrame

theorem execute_changeSettings_frame (disk : Disk) (stdin : ByteArray) (store : SettingsStore)
    (overrides : Overrides) :
    ChangeFrame store.path (execute disk stdin store (.changeSettings overrides)).1 disk
      (execute disk stdin store (.changeSettings overrides)).2 := by
  rw [execute_changeSettings]
  rcases hsave : (overrides.change store).save disk with ⟨e | ⟨⟨⟩⟩, after⟩
  · change ChangeFrame store.path (.failed _) disk after
    rw [ChangeFrame, if_neg (by simp [Outcome.exitCode])]
    exact (SettingsStore.save_grown hsave).writeFrame
  · change ChangeFrame store.path (.done _) disk after
    obtain ⟨target, hfind, -, hframe⟩ := SettingsStore.save_target hsave
    rw [ChangeFrame, if_pos (show (Outcome.done _).exitCode = 0 from rfl)]
    exact ⟨target, hfind, hframe⟩

/-- A command fails for want of a payload, or because settings are not saved. It does not fail
halfway through its output, as a decision that is printed does not. -/
theorem execute_ne_dispatch (h : (execute disk stdin store command).1 = .failed error)
    (e : DispatchError) : error ≠ .dispatch e := by
  have hpayload {path? : Option FilePath} (hread : readPayload disk stdin path? = .error error) :
      error ≠ .dispatch e := by
    rcases readPayload_eq_error.mp hread with ⟨_, -, rfl⟩ | ⟨_, -, _, -, rfl⟩ <;> simp
  cases command with
  | resolve path? overrides => exact hpayload (by simpa [execute] using h)
  | dispatch path? overrides => exact hpayload (by simpa [execute, dispatchText_eq] using h)
  | showSettings => cases h
  | changeSettings overrides =>
    rw [execute_changeSettings] at h
    rcases hsave : (overrides.change store).save disk with ⟨reason | ⟨⟨⟩⟩, after⟩ <;>
      rw [hsave] at h <;> cases h
    simp

theorem execute_ne_usage : (execute disk stdin store command).1 ≠ .usage := by
  cases command with
  | resolve path? overrides => simp [execute]
  | dispatch path? overrides => simp [execute]
  | showSettings => simp [execute]
  | changeSettings overrides =>
    rw [execute_changeSettings]
    rcases (overrides.change store).save disk with ⟨_ | _, _⟩ <;> simp

/-! ## Whole runs -/

theorem changedFile?_of_accepted {invocation : Invocation}
    (h : Invocation.ofArguments? arguments = some invocation) :
    changedFile? env arguments =
      match invocation.command with
      | .changeSettings _ => some (invocation.settingsPath env)
      | _ => none := by
  obtain ⟨config?, command⟩ := invocation
  rw [changedFile?, h]
  cases command <;> rfl

/-- What a run leaves behind follows from its command line and its exit code. -/
theorem run_frame (env : Environment) (arguments : List String) (stdin : ByteArray) (disk : Disk) :
    match changedFile? env arguments with
    | some path =>
      ChangeFrame path (run env arguments stdin disk).1 disk (run env arguments stdin disk).2
    | none => (run env arguments stdin disk).2 = disk := by
  rcases run_cases env arguments stdin disk with
    ⟨hrefused, hrun⟩ | ⟨invocation, haccepted, ⟨e, -, hrun⟩ | ⟨store, hload, hrun⟩⟩
  · rw [hrun, changedFile?, hrefused]
  · rw [hrun]
    split
    · exact .refl (by simp [Outcome.exitCode]) _ disk
    · rfl
  · rw [hrun, changedFile?_of_accepted haccepted, ← SettingsStore.path_of_loadOrDefault hload]
    cases invocation.command with
    | resolve path? overrides => rfl
    | dispatch path? overrides => rfl
    | showSettings => rfl
    | changeSettings overrides => exact execute_changeSettings_frame disk stdin store overrides

theorem run_exitCode_eq_two : (run env arguments stdin disk).1.exitCode = 2 ↔
    Invocation.ofArguments? arguments = none := by
  rw [exitCode_eq_two]
  rcases run_cases env arguments stdin disk with
    ⟨hrefused, hrun⟩ | ⟨invocation, haccepted, ⟨e, -, hrun⟩ | ⟨store, -, hrun⟩⟩
  · simp [hrun, hrefused]
  · simp [hrun, haccepted]
  · simp [hrun, haccepted, execute_ne_usage]

theorem run_ne_dispatch (e : DispatchError) :
    (run env arguments stdin disk).1 ≠ .failed (.dispatch e) := by
  rcases run_cases env arguments stdin disk with
    ⟨-, hrun⟩ | ⟨invocation, -, ⟨reason, -, hrun⟩ | ⟨store, -, hrun⟩⟩
  · simp [hrun]
  · simp [hrun]
  · rw [hrun]
    exact fun h => execute_ne_dispatch h e rfl

/-- A run fails with exit code 2 if its command line has no meaning, and with exit code 1 if
anything else is wrong. A run that fails prints nothing, and leaves every file as it was. Only a
change of settings leaves anything behind (`ChangeFrame`), and no other run changes the disk.
Output is not cut short by a failure: a decision that is printed does not fail. -/
theorem run_footprint (env : Environment) (arguments : List String) (stdin : ByteArray)
    (disk : Disk) :
    let outcome := (run env arguments stdin disk).1
    let after := (run env arguments stdin disk).2
    (outcome.exitCode = 0 ∨ outcome.exitCode = 1 ∨ outcome.exitCode = 2) ∧
    (outcome.exitCode = 2 ↔ Invocation.ofArguments? arguments = none) ∧
    (outcome.exitCode ≠ 0 → outcome.output = "") ∧
    (∀ e, outcome ≠ .failed (.dispatch e)) ∧
    match changedFile? env arguments with
    | some path => ChangeFrame path outcome disk after
    | none => after = disk := by
  intro outcome after
  have hcode : outcome.exitCode = 0 ∨ outcome.exitCode = 1 ∨ outcome.exitCode = 2 := by
    cases outcome <;> simp [Outcome.exitCode]
  exact ⟨hcode, run_exitCode_eq_two, output_of_exitCode_ne_zero, run_ne_dispatch,
    run_frame env arguments stdin disk⟩

/-- A settings file that can only be a directory, inside a directory that is missing. -/
def sampleArguments : List String :=
  ["settings", "set", "--open-app=false", "--config", "made/missing/."]

/-- The directory around it is made before the file is found not to be possible, and stays. -/
theorem run_footprint_made :
    (run {} sampleArguments .empty {}).1.output = "" ∧
    (run {} sampleArguments .empty {}).2.get? ["made"] = some .directory ∧
    Disk.WriteFrame ⟨"made/missing/."⟩ none {} (run {} sampleArguments .empty {}).2 := by
  obtain ⟨-, -, houtput, -, hframe⟩ := run_footprint {} sampleArguments .empty {}
  have hcode : (run {} sampleArguments .empty {}).1.exitCode ≠ 0 := by decide +kernel
  have hfile : changedFile? {} sampleArguments = some ⟨"made/missing/."⟩ := by decide +kernel
  rw [hfile] at hframe
  refine ⟨houtput hcode, by decide +kernel, ?_⟩
  simpa only [ChangeFrame, if_neg hcode] using hframe

end NotificationTap.CommandLine
