import NotificationTap.Proofs.CommandLine.Stages
import NotificationTap.Proofs.Except

/-!
# Broken settings files

A settings file that is there but cannot be read or understood is the user's to repair. No run
takes it for the default settings, and no run writes over it.

* `loadingText`: what a run was trying to do when it met the file.
* `run_settings_broken`: how every run ends that meets one.
* `broken_settings_kept`: a broken file ends every run before anything is done, and only a file that
  is absent stands for the defaults.
-/

namespace NotificationTap.CommandLine

/-- What a run was trying to do when its settings were not loaded. -/
def loadingText : Option FilePath → String
  | none => "failed to load settings"
  | some path => "failed to load settings from " ++ path.text

theorem chain_settings (config? : Option FilePath) (e : ConfigError) :
    (RunError.settings config? e).chain = loadingText config? :: e.chain := by
  cases config? <;> rfl

variable {env : Environment} {arguments : List String} {stdin : ByteArray} {disk : Disk}
  {e : ConfigError}

/-- A run that meets a broken settings file says so and ends. -/
theorem run_settings_broken {invocation : Invocation}
    (haccepted : Invocation.ofArguments? arguments = some invocation)
    (hbroken : SettingsStore.Broken disk (invocation.settingsPath env) e) :
    ∃ outcome, run env arguments stdin disk = (outcome, disk) ∧ outcome.exitCode = 1 ∧
      outcome.output = "" ∧ outcome.chain = loadingText invocation.config? :: e.chain := by
  have hload := SettingsStore.loadOrDefault_eq_error.mpr hbroken
  exact ⟨_, run_of_broken haccepted hload, rfl, rfl, chain_settings invocation.config? e⟩

/-- A settings file is broken if it is a directory, or its bytes are no text, or its text is refused.
It ends every run that is to work on it, whatever the command: with exit code 1, no output and an
error that says what was tried, and with the disk as it was. Loading it fails with one error,
whether or not the defaults might stand in. They stand in for an error exactly where no file was
found, and none is found exactly where nothing is at the path. -/
theorem broken_settings_kept (disk : Disk) (path : FilePath) :
    ((∃ e, SettingsStore.Broken disk path e) ↔
      disk.status path = .ok .directory ∨
      (∃ content, disk.status path = .ok (.file content) ∧ ¬content.IsValidUTF8) ∨
      ∃ text, disk.status path = .ok (.file text.toUTF8) ∧ Settings.Refused text) ∧
    (∀ e, SettingsStore.Broken disk path e →
      SettingsStore.load disk path = .error e ∧ SettingsStore.loadOrDefault disk path = .error e ∧
      ∀ env arguments stdin invocation, Invocation.ofArguments? arguments = some invocation →
        invocation.settingsPath env = path →
        ∃ outcome, run env arguments stdin disk = (outcome, disk) ∧ outcome.exitCode = 1 ∧
          outcome.output = "" ∧ outcome.chain = loadingText invocation.config? :: e.chain) ∧
    (∀ e store, SettingsStore.load disk path = .error e →
      (SettingsStore.loadOrDefault disk path = .ok store ↔
        e = .notFound path ∧ store = ⟨path, Settings.default⟩)) ∧
    (SettingsStore.load disk path = .error (.notFound path) ↔
      ∀ node, disk.status path ≠ .ok node) := by
  refine ⟨SettingsStore.exists_broken_iff, fun e hbroken => ⟨SettingsStore.load_of_broken hbroken,
    SettingsStore.loadOrDefault_eq_error.mpr hbroken, ?_⟩,
    fun e store => SettingsStore.loadOrDefault_of_load_error, SettingsStore.load_eq_notFound⟩
  rintro env arguments stdin invocation haccepted rfl
  exact run_settings_broken haccepted hbroken

/-- A settings file in which a word stands for a truth value. -/
def mistypedText : String := "open_app_on_notification_click = \"yes\"\n"

/-- A disk with that file. -/
def mistypedDisk : Disk where
  entries := [(["open.toml"], .file mistypedText.toUTF8)]

/-- The file is not written over by a change that gives the setting a truth value. -/
theorem broken_settings_kept_mistyped :
    ∃ outcome, run {} ["settings", "set", "--open-app=true", "--config=open.toml"] .empty
        mistypedDisk = (outcome, mistypedDisk) ∧ outcome.exitCode = 1 ∧ outcome.output = "" ∧
      outcome.chain.head? = some "failed to load settings from open.toml" := by
  obtain ⟨fault, hrefused⟩ : ∃ fault, Settings.ofFileText mistypedText = .error fault :=
    Except.toOption_eq_none.mp (by decide +kernel)
  have haccepted : Invocation.ofArguments?
      ["settings", "set", "--open-app=true", "--config=open.toml"] =
        some ⟨some ⟨"open.toml"⟩, .changeSettings ⟨some true, none⟩⟩ := by
    decide +kernel
  obtain ⟨-, hends, -⟩ := broken_settings_kept mistypedDisk ⟨"open.toml"⟩
  obtain ⟨-, -, hrun⟩ := hends (.malformed fault) (.malformed rfl hrefused)
  obtain ⟨outcome, hend, hcode, houtput, hchain⟩ := hrun {} _ .empty _ haccepted rfl
  exact ⟨outcome, hend, hcode, houtput, congrArg List.head? hchain⟩

end NotificationTap.CommandLine
