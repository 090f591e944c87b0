import NotificationTap.Proofs.Except
import NotificationTap.Proofs.SaveAndLoad

/-!
# When a store is not loaded

* `Disk.decodeText_eq_ok`: the text of bytes is the one that they encode.
* `Settings.Refused`: what the text of a settings file is refused for, and for nothing else.
* `SettingsStore.Broken`: something is at the path, and no settings can be had from it.
* `SettingsStore.load_eq_error`: loading fails where nothing is at the path, and where what is there
  is broken. `SettingsStore.loadOrDefault_eq_error`: only the latter is left of it where the defaults
  may stand in. `SettingsStore.loadOrDefault_of_load_error`: the one error that they stand in for.
-/

namespace NotificationTap

namespace Disk

variable {bytes : ByteArray} {text : String} {e : DiskError}

/-! ## Texts -/

theorem decodeText_eq_ok : decodeText bytes = .ok text ↔ bytes = text.toUTF8 := by
  constructor
  · intro h
    rw [decodeText, String.fromUTF8?] at h
    by_cases hvalid : bytes.IsValidUTF8
    · rw [dif_pos hvalid] at h
      obtain rfl : String.fromUTF8 bytes hvalid = text := Except.ok.inj h
      rfl
    · rw [dif_neg hvalid] at h
      cases h
  · rintro rfl
    exact decodeText_toUTF8 text

theorem decodeText_eq_error : decodeText bytes = .error e ↔ ¬bytes.IsValidUTF8 ∧ e = .notText := by
  rw [decodeText, String.fromUTF8?]
  by_cases hvalid : bytes.IsValidUTF8
  · rw [dif_pos hvalid]
    simp [hvalid]
  · rw [dif_neg hvalid]
    simp [hvalid, eq_comm]

end Disk

/-! ## Refused texts -/

theorem Toml.Value.toBoolean_eq_ok {value : Toml.Value} {b : Bool} :
    value.toBoolean = .ok b ↔ value = .boolean b := by
  cases value <;> simp [Toml.Value.toBoolean]

/-- The text of a settings file is refused: it is no TOML document, or it gives a known key
something else than a truth value. -/
inductive Settings.Refused (text : String) : Prop where
  | notToml (refused : Toml.parse? text = none)
  | mistyped {table : Toml.Table} {key : String} {value : Toml.Value}
    (parsed : Toml.parse? text = some table) (mem : (key, value) ∈ table)
    (known : key = openAppKey ∨ key = suppressUrlKey) (other : ∀ b, value ≠ .boolean b)

/-- Entries are refused for the value of a known key, wherever it is among them. -/
theorem Settings.update_eq_error (settings : Settings) (table : Toml.Table) :
    (∃ mismatch, settings.update table = .error mismatch) ↔
      ∃ entry ∈ table, (entry.1 = openAppKey ∨ entry.1 = suppressUrlKey) ∧
        ∀ b, entry.2 ≠ .boolean b := by
  -- The settings so far do not matter, but they change from entry to entry.
  induction table generalizing settings with
  | nil => simp [update]
  | cons entry table ih =>
    obtain ⟨key, value⟩ := entry
    simp only [List.mem_cons, exists_eq_or_imp]
    rw [update]
    by_cases hknown : key = openAppKey ∨ key = suppressUrlKey
    · cases hvalue : value.toBoolean with
      | error mismatch =>
        have hother (b : Bool) : value ≠ .boolean b := by
          rw [Ne, ← Toml.Value.toBoolean_eq_ok, hvalue]
          simp
        refine iff_of_true ⟨mismatch, ?_⟩ (.inl ⟨hknown, hother⟩)
        rcases hknown with rfl | rfl
        · rfl
        · rfl
      | ok b =>
        obtain rfl := Toml.Value.toBoolean_eq_ok.mp hvalue
        have hne : suppressUrlKey ≠ openAppKey := by decide
        rcases hknown with rfl | rfl
        · simp [ih]
        · simp [ih, hne]
    · obtain ⟨hopen, hsuppress⟩ := not_or.mp hknown
      rw [if_neg hopen, if_neg hsuppress, ih]
      simp [hopen, hsuppress]

theorem Settings.ofFileText_eq_error {text : String} :
    (∃ fault, Settings.ofFileText text = .error fault) ↔ Settings.Refused text := by
  unfold ofFileText
  cases hparse : Toml.parse? text with
  | none => exact iff_of_true ⟨_, rfl⟩ (.notToml hparse)
  | some table =>
    have hupdate := update_eq_error Settings.default table
    constructor
    · rintro ⟨fault, h⟩
      obtain ⟨mismatch, hrefused, -⟩ := Except.mapError_eq_error.mp h
      obtain ⟨⟨key, value⟩, hmem, hknown, hother⟩ := hupdate.mp ⟨mismatch, hrefused⟩
      exact .mistyped hparse hmem hknown hother
    · rintro (hnone | ⟨hsome, hmem, hknown, hother⟩)
      · rw [hparse] at hnone
        cases hnone
      · obtain rfl := Option.some.inj (hparse.symm.trans hsome)
        obtain ⟨mismatch, hrefused⟩ := hupdate.mpr ⟨_, hmem, hknown, hother⟩
        exact ⟨.mismatch mismatch, Except.mapError_eq_error.mpr ⟨mismatch, hrefused, rfl⟩⟩

namespace SettingsStore

variable {disk : Disk} {path : FilePath} {store : SettingsStore} {e : ConfigError}

theorem ofText_eq_error {text : String} : ofText path text = .error e ↔
    ∃ fault, Settings.ofFileText text = .error fault ∧ e = .malformed fault := by
  unfold ofText
  cases Settings.ofFileText text <;> simp [eq_comm]

/-! ## Broken files -/

/-- Something is at the path, and no settings can be had from it, with the error that says why: a
directory, bytes that are no text, or a text that is no settings file. -/
inductive Broken (disk : Disk) (path : FilePath) : ConfigError → Prop where
  | directory (there : disk.status path = .ok .directory) : Broken disk path (.disk .isDirectory)
  | notText {content : ByteArray} (there : disk.status path = .ok (.file content))
    (invalid : ¬content.IsValidUTF8) : Broken disk path (.disk .notText)
  | malformed {text : String} {fault : SettingsFault}
    (there : disk.status path = .ok (.file text.toUTF8))
    (refused : Settings.ofFileText text = .error fault) : Broken disk path (.malformed fault)

/-- A broken file is not the absence of one. -/
theorem Broken.ne_notFound (h : Broken disk path e) (other : FilePath) : e ≠ .notFound other := by
  cases h <;> simp

/-- What is there is broken for one of three reasons. -/
theorem exists_broken_iff : (∃ e, Broken disk path e) ↔
    disk.status path = .ok .directory ∨
    (∃ content, disk.status path = .ok (.file content) ∧ ¬content.IsValidUTF8) ∨
    ∃ text, disk.status path = .ok (.file text.toUTF8) ∧ Settings.Refused text := by
  constructor
  · rintro ⟨e, there | ⟨there, invalid⟩ | ⟨there, refused⟩⟩
    · exact .inl there
    · exact .inr (.inl ⟨_, there, invalid⟩)
    · exact .inr (.inr ⟨_, there, Settings.ofFileText_eq_error.mp ⟨_, refused⟩⟩)
  · rintro (there | ⟨content, there, invalid⟩ | ⟨text, there, refused⟩)
    · exact ⟨_, .directory there⟩
    · exact ⟨_, .notText there invalid⟩
    · obtain ⟨fault, h⟩ := Settings.ofFileText_eq_error.mpr refused
      exact ⟨_, .malformed there h⟩

/-- Loading looks at what is at the path once. -/
theorem load_eq_status : load disk path =
    match disk.status path with
    | .error _ => .error (.notFound path)
    | .ok .directory => .error (.disk .isDirectory)
    | .ok (.file content) =>
      match Disk.decodeText content with
      | .error reason => .error (.disk reason)
      | .ok text => ofText path text := by
  unfold load Disk.has Disk.readText Disk.readBytes
  cases disk.status path with
  | error reason => rfl
  | ok node => cases node <;> rfl

theorem load_of_broken (h : Broken disk path e) : load disk path = .error e := by
  rw [load_eq_status]
  cases h with
  | directory there => rw [there]
  | notText there invalid =>
    rw [there]
    simp only [Disk.decodeText_eq_error.mpr ⟨invalid, rfl⟩]
  | malformed there refused =>
    rw [there]
    simp only [Disk.decodeText_toUTF8, ofText, refused]

/-- Loading fails where nothing is at the path, and where what is there is broken. -/
theorem load_eq_error : load disk path = .error e ↔
    (∀ node, disk.status path ≠ .ok node) ∧ e = .notFound path ∨ Broken disk path e := by
  constructor
  · intro h
    rw [load_eq_status] at h
    cases hstatus : disk.status path with
    | error reason =>
      rw [hstatus] at h
      exact .inl ⟨by simp, (Except.error.inj h).symm⟩
    | ok node =>
      rw [hstatus] at h
      cases node with
      | directory =>
        cases h
        exact .inr (.directory hstatus)
      | file content =>
        dsimp only at h
        cases hdecode : Disk.decodeText content with
        | error reason =>
          rw [hdecode] at h
          cases h
          obtain ⟨invalid, rfl⟩ := Disk.decodeText_eq_error.mp hdecode
          exact .inr (.notText hstatus invalid)
        | ok text =>
          rw [hdecode] at h
          obtain rfl := Disk.decodeText_eq_ok.mp hdecode
          obtain ⟨fault, refused, rfl⟩ := ofText_eq_error.mp h
          exact .inr (.malformed hstatus refused)
  · rintro (⟨hnone, rfl⟩ | hbroken)
    · rw [load_eq_status]
      cases hstatus : disk.status path with
      | error reason => rfl
      | ok node => exact absurd hstatus (hnone node)
    · exact load_of_broken hbroken

theorem load_eq_notFound : load disk path = .error (.notFound path) ↔
    ∀ node, disk.status path ≠ .ok node := by
  rw [load_eq_error]
  exact ⟨fun h => h.elim And.left fun hbroken => absurd rfl (hbroken.ne_notFound path),
    fun h => .inl ⟨h, rfl⟩⟩

/-! ## Defaults -/

/-- Settings that were saved are loaded again. -/
theorem loadOrDefault_of_save {after : Disk} {settings : Settings}
    (h : save ⟨path, settings⟩ disk = (.ok (), after)) :
    loadOrDefault after path = .ok ⟨path, settings⟩ := by
  have hload := load_of_save h
  rw [loadOrDefault, hload]

theorem loadOrDefault_of_notFound {other : FilePath} (h : load disk path = .error (.notFound other)) :
    loadOrDefault disk path = .ok ⟨other, Settings.default⟩ := by
  rw [loadOrDefault, h]

theorem loadOrDefault_of_ne (h : ∀ other, load disk path ≠ .error (.notFound other)) :
    loadOrDefault disk path = load disk path := by
  unfold loadOrDefault
  split
  · exact absurd ‹_› (h _)
  · rfl

/-- With the defaults for a file that is absent, only a broken one is left to fail. -/
theorem loadOrDefault_eq_error : loadOrDefault disk path = .error e ↔ Broken disk path e := by
  constructor
  · intro h
    have hload : load disk path = .error e := by
      unfold loadOrDefault at h
      split at h
      · cases h
      · exact h
    rcases load_eq_error.mp hload with ⟨-, rfl⟩ | hbroken
    · rw [loadOrDefault_of_notFound hload] at h
      cases h
    · exact hbroken
  · intro h
    have hload := load_of_broken h
    rw [loadOrDefault_of_ne, hload]
    rw [hload]
    intro other heq
    exact h.ne_notFound other (Except.error.inj heq)

/-- Where loading fails, a store is had only from the absence of a file, and it has the defaults. -/
theorem loadOrDefault_of_load_error (hload : load disk path = .error e) :
    loadOrDefault disk path = .ok store ↔
      e = .notFound path ∧ store = ⟨path, Settings.default⟩ := by
  rcases load_eq_error.mp hload with ⟨-, rfl⟩ | hbroken
  · rw [loadOrDefault_of_notFound hload]
    simp [eq_comm]
  · rw [loadOrDefault_eq_error.mpr hbroken]
    simp [hbroken.ne_notFound path]

/-! ## Paths -/

theorem path_of_load (h : load disk path = .ok store) : store.path = path := by
  unfold load ofText at h
  split at h
  · split at h
    · cases h
    · split at h <;> cases h
      rfl
  · cases h

/-- A store is loaded for the path that it was asked for. -/
theorem path_of_loadOrDefault (h : loadOrDefault disk path = .ok store) : store.path = path := by
  unfold loadOrDefault at h
  split at h
  case _ other hload =>
    obtain rfl : ⟨other, Settings.default⟩ = store := Except.ok.inj h
    rcases load_eq_error.mp hload with ⟨-, heq⟩ | hbroken
    · exact ConfigError.notFound.inj heq
    · exact absurd rfl (hbroken.ne_notFound other)
  case _ => exact path_of_load h

end SettingsStore

end NotificationTap
