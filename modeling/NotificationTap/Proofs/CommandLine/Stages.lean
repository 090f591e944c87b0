import NotificationTap.CommandLine.Run
import NotificationTap.Proofs.Loading

/-!
# The stages of a run

A run reads its command line, loads the settings, and carries out the command. Each stage may end
it.

* `Invocation.settingsPath`: the settings file of a run.
* `run_of_refused`, `run_of_broken`, `run_of_loaded`: a run ends at the command line, at the
  settings, or with its command. `run_cases`: there is nothing else.
* `execute_changeSettings`: changing settings is saving them; `Overrides.change` is what is saved.
-/

namespace NotificationTap.CommandLine

/-! ## Outcomes -/

theorem exitCode_eq_zero {outcome : Outcome} :
    outcome.exitCode = 0 ↔ ∃ output, outcome = .done output := by
  cases outcome <;> simp [Outcome.exitCode]

theorem exitCode_eq_two {outcome : Outcome} : outcome.exitCode = 2 ↔ outcome = .usage := by
  cases outcome <;> simp [Outcome.exitCode]

@[simp] theorem ofResult_eq_done {result : Except RunError String} {output : String} :
    Outcome.ofResult result = .done output ↔ result = .ok output := by
  cases result <;> simp [Outcome.ofResult]

@[simp] theorem ofResult_eq_failed {result : Except RunError String} {error : RunError} :
    Outcome.ofResult result = .failed error ↔ result = .error error := by
  cases result <;> simp [Outcome.ofResult]

@[simp] theorem ofResult_ne_usage {result : Except RunError String} :
    Outcome.ofResult result ≠ .usage := by
  cases result <;> simp [Outcome.ofResult]

/-- Only a run that succeeds prints anything on its standard output. -/
theorem output_of_exitCode_ne_zero {outcome : Outcome} (h : outcome.exitCode ≠ 0) :
    outcome.output = "" := by
  cases outcome with
  | done output => exact absurd rfl h
  | failed error => rfl
  | usage => rfl

/-! ## Up to the settings -/

/-- The path of the settings file that a run works on. -/
def Invocation.settingsPath (env : Environment) (invocation : Invocation) : FilePath :=
  invocation.config?.getD env.settingsPath

variable {env : Environment} {arguments : List String} {stdin : ByteArray} {disk : Disk}
  {invocation : Invocation}

theorem run_of_refused (h : Invocation.ofArguments? arguments = none) :
    run env arguments stdin disk = (.usage, disk) := by
  rw [run, h]

theorem loadStore_eq (env : Environment) (disk : Disk) (config? : Option FilePath) :
    loadStore env disk config? =
      (SettingsStore.loadOrDefault disk (config?.getD env.settingsPath)).mapError
        (.settings config?) := by
  cases config? <;> rfl

theorem run_of_broken (haccepted : Invocation.ofArguments? arguments = some invocation)
    {e : ConfigError}
    (hload : SettingsStore.loadOrDefault disk (invocation.settingsPath env) = .error e) :
    run env arguments stdin disk = (.failed (.settings invocation.config? e), disk) := by
  rw [Invocation.settingsPath] at hload
  simp only [run, haccepted, loadStore_eq, hload, Except.mapError_error]

theorem run_of_loaded (haccepted : Invocation.ofArguments? arguments = some invocation)
    {store : SettingsStore}
    (hload : SettingsStore.loadOrDefault disk (invocation.settingsPath env) = .ok store) :
    run env arguments stdin disk = execute disk stdin store invocation.command := by
  rw [Invocation.settingsPath] at hload
  simp only [run, haccepted, loadStore_eq, hload, Except.mapError_ok]

/-- A run ends at the command line, at the settings, or with its command. -/
theorem run_cases (env : Environment) (arguments : List String) (stdin : ByteArray) (disk : Disk) :
    Invocation.ofArguments? arguments = none ∧ run env arguments stdin disk = (.usage, disk) ∨
    ∃ invocation, Invocation.ofArguments? arguments = some invocation ∧
      ((∃ e, SettingsStore.loadOrDefault disk (invocation.settingsPath env) = .error e ∧
          run env arguments stdin disk = (.failed (.settings invocation.config? e), disk)) ∨
        ∃ store, SettingsStore.loadOrDefault disk (invocation.settingsPath env) = .ok store ∧
          run env arguments stdin disk = execute disk stdin store invocation.command) := by
  cases haccepted : Invocation.ofArguments? arguments with
  | none => exact .inl ⟨rfl, run_of_refused haccepted⟩
  | some invocation =>
    refine .inr ⟨invocation, rfl, ?_⟩
    cases hload : SettingsStore.loadOrDefault disk (invocation.settingsPath env) with
    | error e => exact .inl ⟨e, rfl, run_of_broken haccepted hload⟩
    | ok store => exact .inr ⟨store, rfl, run_of_loaded haccepted hload⟩

/-! ## Commands -/

/-- A store with the settings that are given in place of its own. -/
def Overrides.change (overrides : Overrides) (store : SettingsStore) : SettingsStore where
  path := store.path
  settings := overrides.apply store.settings

/-- Changing settings is saving them. They are shown once they are saved. -/
theorem execute_changeSettings (disk : Disk) (stdin : ByteArray) (store : SettingsStore)
    (overrides : Overrides) :
    execute disk stdin store (.changeSettings overrides) =
      match (overrides.change store).save disk with
      | (.error e, after) => (.failed (.saving store.path e), after)
      | (.ok (), after) => (.done (settingsText (overrides.change store)), after) := by
  simp only [execute]
  rcases hsave : (overrides.change store).save disk with ⟨e | ⟨⟨⟩⟩, after⟩
  · simp only [Overrides.change] at hsave
    simp only [hsave]
  · simp only [Overrides.change] at hsave
    simp only [hsave, Overrides.change]

end NotificationTap.CommandLine
