import NotificationTap.Proofs.CommandLine.BrokenSettings
import NotificationTap.Proofs.CommandLine.NamedSettings

/-!
# How the settings file is chosen

A run works on the settings file that its command line names, or else on that of its environment.

* `run_eq_of_named`: a run whose command line names the file does not look at its environment.
* `run_settings_choice`: whether the command line or the environment names the file, the run is the
  same, but for one text if the settings are not loaded.
-/

namespace NotificationTap.CommandLine

variable {front back : List String} {command : Command} {path : String}

/-- A run whose command line names a settings file does the same in any environment. -/
theorem run_eq_of_named {arguments : List String} {file : FilePath}
    (haccepted : Invocation.ofArguments? arguments = some ⟨some file, command⟩)
    (env env' : Environment) (stdin : ByteArray) (disk : Disk) :
    run env arguments stdin disk = run env' arguments stdin disk := by
  rw [run, run, haccepted]
  rfl

/-- An environment that gives the settings file. -/
theorem settingsPath_of_settingsFile? {env : Environment} (h : env.settingsFile? = some path) :
    env.settingsPath = ⟨path⟩ := by
  rw [Environment.settingsPath, h]

/-- It makes no difference how a run gets its settings file. A run whose command line names the file
does the same in any environment. A run without that option, in an environment that gives the file,
leaves the same disk, with the same exit code and the same output. It ends the same in all, its error
included, if the settings are loaded. If they are not, both runs fail with the same error of the
settings, and only the text before it leaves out the path. -/
theorem run_settings_choice (hfront : awaitsOption front = true) (hpath : path ≠ "")
    (haccepted : Invocation.ofArguments? (front ++ back) = some ⟨none, command⟩)
    (stdin : ByteArray) (disk : Disk) :
    (∀ env env', run env (front ++ configOption path :: back) stdin disk =
      run env' (front ++ configOption path :: back) stdin disk) ∧
    ∀ env env', env'.settingsFile? = some path →
      let named := run env (front ++ configOption path :: back) stdin disk
      let given := run env' (front ++ back) stdin disk
      given.1.exitCode = named.1.exitCode ∧ given.1.output = named.1.output ∧ given.2 = named.2 ∧
      (∀ store, SettingsStore.loadOrDefault disk ⟨path⟩ = .ok store → given.1 = named.1) ∧
      ∀ e, SettingsStore.loadOrDefault disk ⟨path⟩ = .error e →
        named.1 = .failed (.settings (some ⟨path⟩) e) ∧ given.1 = .failed (.settings none e) ∧
        named.1.chain = ("failed to load settings from " ++ path) :: e.chain ∧
        given.1.chain = "failed to load settings" :: e.chain := by
  have hnamed := ofArguments?_named hfront hpath haccepted
  refine ⟨fun env env' => run_eq_of_named hnamed env env' stdin disk, fun env env' hgiven => ?_⟩
  have hpaths : (Invocation.mk none command).settingsPath env' = ⟨path⟩ :=
    settingsPath_of_settingsFile? hgiven
  intro named given
  cases hload : SettingsStore.loadOrDefault disk ⟨path⟩ with
  | error e =>
    have hnamed : named = (.failed (.settings (some ⟨path⟩) e), disk) := run_of_broken hnamed hload
    have hgiven : given = (.failed (.settings none e), disk) :=
      run_of_broken haccepted (hpaths ▸ hload)
    rw [hnamed, hgiven]
    refine ⟨rfl, rfl, rfl, nofun, fun other hother => ?_⟩
    obtain rfl := Except.error.inj hother
    exact ⟨rfl, rfl, rfl, rfl⟩
  | ok store =>
    have hnamed : named = execute disk stdin store command := run_of_loaded hnamed hload
    have hgiven : given = execute disk stdin store command :=
      run_of_loaded haccepted (hpaths ▸ hload)
    rw [hnamed, hgiven]
    exact ⟨rfl, rfl, rfl, fun _ _ => rfl, nofun⟩

/-- A path with an equals sign, between the names of two commands: the disk that is left is the same
as with the path from an environment that has a home besides. -/
theorem run_settings_choice_nested :
    (run {} ["settings", configOption "a=b.toml", "set", "--open-app=false"] .empty {}).2 =
      (run { settingsFile? := some "a=b.toml", home? := some "/home" }
        ["settings", "set", "--open-app=false"] .empty {}).2 := by
  have hfront : awaitsOption ["settings"] = true := by decide +kernel
  have hpath : "a=b.toml" ≠ "" := by decide
  have haccepted : Invocation.ofArguments? (["settings"] ++ ["set", "--open-app=false"]) =
      some ⟨none, .changeSettings ⟨some false, none⟩⟩ := by
    decide +kernel
  obtain ⟨-, hgiven⟩ := run_settings_choice hfront hpath haccepted .empty {}
  obtain ⟨-, -, hdisk, -⟩ :=
    hgiven {} { settingsFile? := some "a=b.toml", home? := some "/home" } rfl
  exact hdisk.symm

end NotificationTap.CommandLine
