import NotificationTap.Proofs.CommandLine.Stages
import NotificationTap.Proofs.Except

/-!
# Runs one after the other

Each run is a program of its own, and what one leaves to the next is the settings file.

* `Asks`: a command line asks for a command on one settings file. `Runs`: such runs one after the
  other, in which every change of settings is saved.
* `Command.written`: the settings that a command stores.
* `updated`: settings updated by commands, in order. `updated_eq_lastWritten`: each field has the
  last value that a command gave it.
* `loadOrDefault_run`: what one run leaves in the settings file. `Runs.loadOrDefault`: what a
  whole sequence does.
* `runs_register`: what is loaded, shown and printed after any sequence of runs.
-/

namespace NotificationTap.CommandLine

/-! ## Sequences of runs -/

/-- A command line asks for a command on the settings file of a path. -/
def Asks (env : Environment) (arguments : List String) (path : FilePath) (command : Command) :
    Prop :=
  ∃ config?, Invocation.ofArguments? arguments = some ⟨config?, command⟩ ∧
    config?.getD env.settingsPath = path

/-- Runs with one settings file, one after the other, by their commands. Those that change settings
succeed; the others need not. -/
inductive Runs (path : FilePath) : Disk → List Command → Disk → Prop where
  | nil (disk : Disk) : Runs path disk [] disk
  | cons {env : Environment} {arguments : List String} {stdin : ByteArray} {before after : Disk}
    {command : Command} {commands : List Command} (asks : Asks env arguments path command)
    (saved : ∀ overrides, command = .changeSettings overrides →
      (run env arguments stdin before).1.exitCode = 0)
    (later : Runs path (run env arguments stdin before).2 commands after) :
    Runs path before (command :: commands) after

/-! ## Settings that are written -/

/-- The settings that a command stores. Those given for a single decision are not stored. -/
def Command.written : Command → Overrides
  | .changeSettings overrides => overrides
  | .resolve _ _ | .dispatch _ _ | .showSettings => {}

/-- Settings updated by commands, in order. -/
def updated (settings : Settings) (commands : List Command) : Settings :=
  commands.foldl (fun settings command => command.written.apply settings) settings

/-- The last value that commands write to a field. -/
def lastWritten? (field? : Overrides → Option Bool) (commands : List Command) : Option Bool :=
  (commands.filterMap fun command => field? command.written).getLast?

theorem foldl_getD (given? : Command → Option Bool) (commands : List Command) (value : Bool) :
    commands.foldl (fun value command => (given? command).getD value) value =
      (commands.filterMap given?).getLast?.getD value := by
  induction commands generalizing value with
  | nil => rfl
  | cons command commands ih =>
    rw [List.foldl_cons, ih]
    cases hgiven : given? command with
    | none => rw [List.filterMap_cons_none hgiven, Option.getD_none]
    | some new =>
      rw [List.filterMap_cons_some hgiven, List.getLast?_cons, Option.getD_some]
      cases (commands.filterMap given?).getLast? <;> rfl

/-- Each field has the last value that a command wrote to it, or the one it had. -/
theorem updated_eq_lastWritten (settings : Settings) (commands : List Command) :
    updated settings commands =
      ⟨(lastWritten? (·.openApp?) commands).getD settings.openApp,
        (lastWritten? (·.suppressUrl?) commands).getD settings.suppressUrl⟩ := by
  rw [lastWritten?, lastWritten?, ← foldl_getD, ← foldl_getD, updated]
  induction commands generalizing settings with
  | nil => rfl
  | cons command commands ih =>
    rw [List.foldl_cons, ih]
    rfl

theorem Overrides.apply_apply (overrides : Overrides) (settings : Settings) :
    overrides.apply (overrides.apply settings) = overrides.apply settings := by
  obtain ⟨_ | _, _ | _⟩ := overrides <;> rfl

/-! ## One run -/

section

variable {env : Environment} {arguments : List String} {stdin : ByteArray} {disk : Disk}
  {path : FilePath} {settings : Settings} {overrides : Overrides} {command : Command}

theorem run_of_asks (asks : Asks env arguments path command)
    (hload : SettingsStore.loadOrDefault disk path = .ok ⟨path, settings⟩) :
    run env arguments stdin disk = execute disk stdin ⟨path, settings⟩ command := by
  obtain ⟨config?, haccepted, rfl⟩ := asks
  exact run_of_loaded haccepted hload

/-- A change of settings that succeeds has saved them, and shows them. -/
theorem run_saved (asks : Asks env arguments path (.changeSettings overrides))
    (hload : SettingsStore.loadOrDefault disk path = .ok ⟨path, settings⟩)
    (hcode : (run env arguments stdin disk).1.exitCode = 0) :
    ∃ after, SettingsStore.save ⟨path, overrides.apply settings⟩ disk = (.ok (), after) ∧
      run env arguments stdin disk =
        (.done (settingsText ⟨path, overrides.apply settings⟩), after) := by
  rw [run_of_asks asks hload, execute_changeSettings] at hcode ⊢
  rcases hsave : (overrides.change ⟨path, settings⟩).save disk with ⟨e | ⟨⟨⟩⟩, after⟩
  · rw [hsave] at hcode
    cases hcode
  · exact ⟨after, hsave, rfl⟩

/-- One run leaves the settings that it loaded, with those that its command stores. -/
theorem loadOrDefault_run (asks : Asks env arguments path command)
    (hload : SettingsStore.loadOrDefault disk path = .ok ⟨path, settings⟩)
    (saved : ∀ overrides, command = .changeSettings overrides →
      (run env arguments stdin disk).1.exitCode = 0) :
    SettingsStore.loadOrDefault (run env arguments stdin disk).2 path =
      .ok ⟨path, command.written.apply settings⟩ := by
  cases command with
  | changeSettings overrides =>
    obtain ⟨after, hsave, hrun⟩ := run_saved asks hload (saved overrides rfl)
    rw [hrun]
    exact SettingsStore.loadOrDefault_of_save hsave
  | resolve path? overrides =>
    rw [run_of_asks asks hload]
    exact hload
  | dispatch path? overrides =>
    rw [run_of_asks asks hload]
    exact hload
  | showSettings =>
    rw [run_of_asks asks hload]
    exact hload

/-- The same change of settings, made again, finds nothing to change. -/
theorem run_again (asks : Asks env arguments path (.changeSettings overrides))
    (hload : SettingsStore.loadOrDefault disk path = .ok ⟨path, settings⟩)
    (hcode : (run env arguments stdin disk).1.exitCode = 0) :
    run env arguments stdin (run env arguments stdin disk).2 = run env arguments stdin disk := by
  obtain ⟨after, hsave, hrun⟩ := run_saved asks hload hcode
  have hloaded := SettingsStore.loadOrDefault_of_save hsave
  rw [hrun, run_of_asks asks hloaded, execute_changeSettings, Overrides.change,
    Overrides.apply_apply, SettingsStore.save_again hsave]

end

/-! ## Whole sequences -/

/-- A sequence of runs leaves the settings updated by its commands, in order. -/
theorem Runs.loadOrDefault {path : FilePath} {before after : Disk} {settings : Settings}
    {commands : List Command} (h : Runs path before commands after)
    (hload : SettingsStore.loadOrDefault before path = .ok ⟨path, settings⟩) :
    SettingsStore.loadOrDefault after path = .ok ⟨path, updated settings commands⟩ := by
  -- What is loaded from the file is all that a run knows of the runs before it.
  induction h generalizing settings with
  | nil disk => exact hload
  | cons asks saved later ih => exact ih (loadOrDefault_run asks hload saved)

/-- After any sequence of runs with one settings file, the settings are those at its start, updated
in order by what the commands stored: each field has the last value written to it, or the one it
had. Every run loads these settings, and showing them shows the path and them. A change of settings
prints what showing them next would print, and making it again changes nothing. -/
theorem runs_register {path : FilePath} {start disk : Disk} {store : SettingsStore}
    {commands : List Command} (hload : SettingsStore.loadOrDefault start path = .ok store)
    (hruns : Runs path start commands disk) :
    let settings := updated store.settings commands
    settings = ⟨(lastWritten? (·.openApp?) commands).getD store.settings.openApp,
      (lastWritten? (·.suppressUrl?) commands).getD store.settings.suppressUrl⟩ ∧
    (∀ env config?, config?.getD env.settingsPath = path →
      loadStore env disk config? = .ok ⟨path, settings⟩) ∧
    (∀ env arguments stdin, Asks env arguments path .showSettings →
      run env arguments stdin disk = (.done (unlines [
        "Path:                " ++ path.text,
        "Open app on click:   " ++ Text.truthName settings.openApp,
        "Suppress launch URL: " ++ Text.truthName settings.suppressUrl]), disk)) ∧
    ∀ env arguments stdin overrides, Asks env arguments path (.changeSettings overrides) →
      (run env arguments stdin disk).1.exitCode = 0 →
      (∀ env' arguments' stdin', Asks env' arguments' path .showSettings →
        run env' arguments' stdin' (run env arguments stdin disk).2 =
          run env arguments stdin disk) ∧
      run env arguments stdin (run env arguments stdin disk).2 = run env arguments stdin disk := by
  intro settings
  have hpath := SettingsStore.path_of_loadOrDefault hload
  have hloaded : SettingsStore.loadOrDefault disk path = .ok ⟨path, settings⟩ :=
    hruns.loadOrDefault (by rw [hload, ← hpath])
  refine ⟨updated_eq_lastWritten store.settings commands, ?_, ?_, ?_⟩
  · rintro env config? rfl
    rw [loadStore_eq, hloaded]
    rfl
  · intro env arguments stdin asks
    rw [run_of_asks asks hloaded]
    rfl
  · intro env arguments stdin overrides asks hcode
    refine ⟨fun env' arguments' stdin' asks' => ?_, run_again asks hloaded hcode⟩
    obtain ⟨after, hsave, hrun⟩ := run_saved asks hloaded hcode
    rw [hrun, run_of_asks asks' (SettingsStore.loadOrDefault_of_save hsave)]
    rfl

/-- A settings file that a user wrote, with a key of another program and one known key. -/
def handwrittenDisk : Disk where
  entries := [(["open.toml"],
    .file "# mine\ntheme = \"dark\"\nsuppress_launch_url = true\n".toUTF8)]

/-- The disk after a run with that settings file and nothing on the standard input. -/
def afterRun (disk : Disk) (arguments : List String) : Disk :=
  (run {} ("--config=open.toml" :: arguments) .empty disk).2

/-- Two changes of settings, and a run between them that has no payload to decide on. -/
def handwrittenRuns : List (List String) :=
  [["settings", "set", "--open-app=false"],
    ["resolve", "--open-app=true", "--suppress-launch-url=true"],
    ["settings", "set", "--suppress-launch-url=false"]]

/-- Each change is kept, and what the run between them was given for itself is not. -/
theorem runs_register_handwritten :
    let disk := handwrittenRuns.foldl afterRun handwrittenDisk
    run {} ["--config=open.toml", "settings", "show"] .empty disk =
      (.done (unlines [
        "Path:                open.toml",
        "Open app on click:   false",
        "Suppress launch URL: false"]), disk) := by
  intro disk
  have hload : SettingsStore.loadOrDefault handwrittenDisk ⟨"open.toml"⟩ =
      .ok ⟨⟨"open.toml"⟩, ⟨true, true⟩⟩ :=
    Except.toOption_eq_some.mp (by decide +kernel)
  have hruns : Runs ⟨"open.toml"⟩ handwrittenDisk
      [.changeSettings ⟨some false, none⟩, .resolve none ⟨some true, some true⟩,
        .changeSettings ⟨none, some false⟩] disk :=
    .cons ⟨some ⟨"open.toml"⟩, by decide +kernel, rfl⟩ (fun _ _ => by decide +kernel)
      (.cons ⟨some ⟨"open.toml"⟩, by decide +kernel, rfl⟩ (fun _ h => by cases h)
        (.cons ⟨some ⟨"open.toml"⟩, by decide +kernel, rfl⟩ (fun _ _ => by decide +kernel)
          (.nil disk)))
  obtain ⟨-, -, hshow, -⟩ := runs_register hload hruns
  exact hshow {} _ .empty ⟨some ⟨"open.toml"⟩, by decide +kernel, rfl⟩

end NotificationTap.CommandLine
