import NotificationTap.Proofs.CommandLine.Agreement
import NotificationTap.Proofs.CommandLine.Footprint
import NotificationTap.Proofs.CommandLine.NamedPayload

/-!
# How the payload is given

A payload is given in a file or on the standard input, and what is decided depends on its bytes.

* `decision_of_bytes`: the decision on a payload from its bytes. `decision_eq_of_bytes`: it does not
  depend on where they are from. `decision_of_notText`: unless they are no text.
* `run_of_decision`: a run that is asked for a decision ends as the decision says.
* `run_payload_choice`: a run on a payload in a file, and a run with the same bytes on the standard
  input, are the same, but for one text if the bytes are no text.
-/

namespace NotificationTap.CommandLine

variable {env : Environment} {stdin other bytes : ByteArray} {disk : Disk} {path : FilePath}
  {config? payload? other? : Option FilePath} {overrides : Overrides} {store : SettingsStore}
  {ask : Option FilePath → Overrides → Command}

/-! ## Decisions on bytes -/

/-- A decision on a payload is one on its bytes. Only an error of reading names its file. -/
theorem decision_of_bytes (hbytes : payloadBytes disk stdin payload? = .ok bytes) :
    decision env stdin disk config? payload? overrides =
      (loadStore env disk config?).bind fun store =>
        (((Disk.decodeText bytes).mapError (.payload (payloadFile? payload?))).bind
          parsePayload).map (resolve (overrides.apply store.settings)) := by
  rw [decision, readPayload_eq_bytes, hbytes]
  rfl

/-- It makes no difference where the bytes are from, if they are text or the settings are not
loaded. -/
theorem decision_eq_of_bytes (hbytes : payloadBytes disk stdin payload? = .ok bytes)
    (hother : payloadBytes disk other other? = .ok bytes)
    (h : bytes.IsValidUTF8 ∨ ∃ e, loadStore env disk config? = .error e) :
    decision env stdin disk config? payload? overrides =
      decision env other disk config? other? overrides := by
  rw [decision_of_bytes hbytes, decision_of_bytes hother]
  rcases h with hvalid | ⟨e, hload⟩
  · cases hdecode : Disk.decodeText bytes with
    | ok text => rfl
    | error e => exact absurd hvalid (Disk.decodeText_eq_error.mp hdecode).1
  · rw [hload]
    rfl

theorem decision_of_notText (hbytes : payloadBytes disk stdin payload? = .ok bytes)
    (hload : loadStore env disk config? = .ok store) (hinvalid : ¬bytes.IsValidUTF8) :
    decision env stdin disk config? payload? overrides =
      .error (.payload (payloadFile? payload?) .notText) := by
  rw [decision_of_bytes hbytes, hload, Disk.decodeText_eq_error.mpr ⟨hinvalid, rfl⟩]
  rfl

/-! ## Runs -/

theorem disk_of_decision (hask : ask = .resolve ∨ ask = .dispatch) {arguments : List String}
    (haccepted : Invocation.ofArguments? arguments = some ⟨config?, ask payload? overrides⟩) :
    (run env arguments stdin disk).2 = disk := by
  have hframe := run_frame env arguments stdin disk
  rw [changedFile?_of_accepted haccepted] at hframe
  rcases hask with rfl | rfl
  · exact hframe
  · exact hframe

/-- A run that is asked for a decision ends as the decision says, and leaves the disk as it was. -/
theorem run_of_decision (hask : ask = .resolve ∨ ask = .dispatch) :
    ∃ print : OpenAction → String, ∀ env arguments stdin disk config? payload? overrides,
      Invocation.ofArguments? arguments = some ⟨config?, ask payload? overrides⟩ →
      run env arguments stdin disk =
        (.ofResult ((decision env stdin disk config? payload? overrides).map print), disk) := by
  rcases hask with rfl | rfl
  · exact ⟨actionText, fun _ _ _ _ _ _ _ h => Prod.ext (run_shows h) (disk_of_decision (.inl rfl) h)⟩
  · exact ⟨actionLog, fun _ _ _ _ _ _ _ h => Prod.ext (run_opens h) (disk_of_decision (.inr rfl) h)⟩

/-- It makes no difference whether the bytes of a payload are in a file or on the standard input,
for a run that shows a decision or one that carries it out. A command line that names the file still
has a meaning with `-` in place of the name, or nothing. Any run that is asked for the same decision
on its standard input leaves the same disk, with the same exit code and the same output. It ends the
same in all, its error included, if the bytes are text, or the settings are not loaded, which comes
first; only if the bytes are no text does its error speak of the standard input and not of the
file. -/
theorem run_payload_choice (hask : ask = .resolve ∨ ask = .dispatch) {arguments : List String}
    (haccepted : Invocation.ofArguments? arguments = some ⟨config?, ask (some path) overrides⟩)
    (hdash : path.isDash = false) (hfile : disk.status path = .ok (.file bytes))
    (env : Environment) (stdin : ByteArray) :
    let named := run env arguments stdin disk
    (∃ front back, arguments = front ++ path.text :: back ∧
      Invocation.ofArguments? (front ++ "-" :: back) =
        some ⟨config?, ask (some ⟨"-"⟩) overrides⟩ ∧
      Invocation.ofArguments? (front ++ back) = some ⟨config?, ask none overrides⟩) ∧
    ∀ others payload?, (∀ dash ∈ payload?, dash.isDash = true) →
      Invocation.ofArguments? others = some ⟨config?, ask payload? overrides⟩ →
      let given := run env others bytes disk
      given.1.exitCode = named.1.exitCode ∧ given.1.output = named.1.output ∧ given.2 = named.2 ∧
      (bytes.IsValidUTF8 ∨
          (∃ e, SettingsStore.loadOrDefault disk (config?.getD env.settingsPath) = .error e) →
        given.1 = named.1) ∧
      (¬bytes.IsValidUTF8 →
        (∃ store, SettingsStore.loadOrDefault disk (config?.getD env.settingsPath) = .ok store) →
        named.1 = .failed (.payload (some path) .notText) ∧
        given.1 = .failed (.payload none .notText) ∧
        named.1.chain = ["failed to read payload from " ++ path.text, DiskError.notText.message] ∧
        given.1.chain = ["failed to read payload from stdin", DiskError.notText.message]) := by
  intro named
  refine ⟨exists_payload_argument hask haccepted, fun others payload? hothers hgiven => ?_⟩
  intro given
  obtain ⟨print, hprint⟩ := run_of_decision hask
  have hnamed : named = _ := hprint env arguments stdin disk _ _ _ haccepted
  have hgiven : given = _ := hprint env others bytes disk _ _ _ hgiven
  have hbytes := payloadBytes_of_file hdash hfile stdin
  have hinput := payloadBytes_of_dash hothers disk bytes
  have hsame (h : bytes.IsValidUTF8 ∨ ∃ e, loadStore env disk config? = .error e) :
      given = named := by
    rw [hnamed, hgiven, decision_eq_of_bytes hinput hbytes h]
  have hstore := loadStore_eq env disk config?
  cases hload : SettingsStore.loadOrDefault disk (config?.getD env.settingsPath) with
  | error e =>
    rw [hload] at hstore
    rw [hsame (.inr ⟨_, hstore⟩)]
    exact ⟨rfl, rfl, rfl, fun _ => rfl, fun _ => nofun⟩
  | ok store =>
    rw [hload] at hstore
    by_cases hvalid : bytes.IsValidUTF8
    · rw [hsame (.inl hvalid)]
      exact ⟨rfl, rfl, rfl, fun _ => rfl, fun hinvalid => absurd hvalid hinvalid⟩
    · rw [hnamed, hgiven, decision_of_notText hinput hstore hvalid,
        decision_of_notText hbytes hstore hvalid, payloadFile?_of_dash hothers,
        payloadFile?_of_file hdash]
      refine ⟨rfl, rfl, rfl, fun h => ?_, fun _ _ => ⟨rfl, rfl, rfl, rfl⟩⟩
      rcases h with h | ⟨e, he⟩
      · exact absurd h hvalid
      · cases he

/-- An `é` in Latin-1, which is no text. -/
def latinBytes : ByteArray := ⟨#[0xe9]⟩

/-- A disk with a file of it. -/
def latinDisk : Disk where
  entries := [(["p.json"], .file latinBytes)]

/-- The path may stand behind `--`, and `-` anywhere among the options: each run says where the
bytes are from. -/
theorem run_payload_choice_latin :
    (run {} ["open", "--open-app=true", "--", "p.json"] .empty latinDisk).1.chain =
      ["failed to read payload from p.json", "stream did not contain valid UTF-8"] ∧
    (run {} ["open", "-", "--open-app", "true"] latinBytes latinDisk).1.chain =
      ["failed to read payload from stdin", "stream did not contain valid UTF-8"] := by
  have haccepted : Invocation.ofArguments? ["open", "--open-app=true", "--", "p.json"] =
      some ⟨none, .dispatch (some ⟨"p.json"⟩) ⟨some true, none⟩⟩ := by
    decide +kernel
  have hgiven : Invocation.ofArguments? ["open", "-", "--open-app", "true"] =
      some ⟨none, .dispatch (some ⟨"-"⟩) ⟨some true, none⟩⟩ := by
    decide +kernel
  have hfile : latinDisk.status ⟨"p.json"⟩ = .ok (.file latinBytes) :=
    Except.toOption_eq_some.mp (by decide +kernel)
  have hload : SettingsStore.loadOrDefault latinDisk (Environment.settingsPath {}) =
      .ok ⟨Environment.settingsPath {}, Settings.default⟩ :=
    Except.toOption_eq_some.mp (by decide +kernel)
  obtain ⟨-, hruns⟩ :=
    run_payload_choice (.inr rfl) haccepted (by decide +kernel) hfile {} .empty
  obtain ⟨-, -, -, -, herrors⟩ := hruns _ (some ⟨"-"⟩) (by decide +kernel) hgiven
  obtain ⟨-, -, hnamed, hgiven⟩ := herrors (by decide +kernel) ⟨_, hload⟩
  exact ⟨hnamed, hgiven⟩

end NotificationTap.CommandLine
