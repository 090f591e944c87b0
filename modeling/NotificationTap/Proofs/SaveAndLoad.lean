import NotificationTap.Proofs.Disk.Growth
import NotificationTap.Proofs.Except
import NotificationTap.SettingsStore

/-!
# Saving settings and loading them again

* `Settings.ofFileText_fileText`: settings are read back from the text that they are saved as.
* `Disk.WriteFrame`: what writing one file, and making the directories around it, may change.
* `SettingsStore.save_eq_ok`, `SettingsStore.save_grown`: what becomes of the disk when a save
  succeeds, and when it fails.
* `SettingsStore.save_then_load`: saved settings are loaded again, saving them once more changes
  nothing, and only the file itself and the directories around it are touched.
-/

namespace NotificationTap

/-! ## The text of a settings file -/

theorem Disk.decodeText_toUTF8 (text : String) : Disk.decodeText text.toUTF8 = .ok text := by
  have hvalid : text.toUTF8.IsValidUTF8 := text.isValidUTF8
  rw [decodeText, String.fromUTF8?, dif_pos hvalid]
  rfl

/-- Settings are read back from the text that they are saved as. -/
theorem Settings.ofFileText_fileText (settings : Settings) :
    Settings.ofFileText settings.fileText = .ok settings := by
  have h : (Settings.ofFileText settings.fileText).toOption = some settings := by
    obtain ⟨_ | _, _ | _⟩ := settings <;> decide +kernel
  cases hread : Settings.ofFileText settings.fileText with
  | error fault =>
    rw [hread] at h
    cases h
  | ok read =>
    rw [hread] at h
    obtain rfl : read = settings := Option.some.inj h
    rfl

/-! ## What a save may change -/

/-- What writing one file, and making the directories around it, may change. Without a target no
file was written. -/
structure Disk.WriteFrame (path : FilePath) (target? : Option Location) (before after : Disk) :
    Prop where
  /-- The current directory stays. -/
  here : after.here = before.here
  /-- Files other than the target stay as they are, and there are no others. -/
  file_iff : ∀ location content, target? ≠ some location →
    (after.get? location = some (.file content) ↔ before.get? location = some (.file content))
  /-- Directories stay. -/
  directory : ∀ location, before.get? location = some .directory →
    after.get? location = some .directory
  /-- Directories are added only where the path passes through before its last name. -/
  added : ∀ location, after.get? location = some .directory →
    before.get? location = some .directory ∨ location ∈ before.around path

namespace Disk

variable {path : FilePath} {before made : Disk}

theorem Grown.writeFrame (h : Grown (before.around path) before made) :
    WriteFrame path none before made where
  here := h.here
  file_iff _ _ _ := h.file_iff
  directory := h.keepsDirectories.directory
  added location hdir := by
    rcases h.get? location with heq | ⟨hmem, -, -⟩
    · exact .inl (heq.symm.trans hdir)
    · exact .inr hmem

theorem WriteFrame.put (h : WriteFrame path none before made) {target : Location}
    (hdir : made.get? target ≠ some .directory) (content : ByteArray) :
    WriteFrame path (some target) before (made.put target (.file content)) := by
  have hother {location : Location} (hne : target ≠ location) :
      (made.put target (.file content)).get? location = made.get? location := by
    rw [get?_put_of_ne hdir, if_neg hne]
  refine ⟨h.here, fun location bytes hne => ?_, fun location hbefore => ?_,
    fun location hafter => ?_⟩
  · rw [hother fun heq => hne (congrArg some heq)]
    exact h.file_iff location bytes (by simp)
  · have hmade := h.directory location hbefore
    rw [hother (by rintro rfl; exact hdir hmade), hmade]
  · by_cases heq : target = location
    · rw [get?_put_of_ne hdir, if_pos heq] at hafter
      cases hafter
    · rw [hother heq] at hafter
      exact h.added location hafter

theorem status_eq_file {disk : Disk} {target : Location} {content : ByteArray}
    (hfind : disk.find path = .ok target) (hget : disk.get? target = some (.file content))
    (hname : namesDirectory path = false) : disk.status path = .ok (.file content) := by
  have hslash : path.endsInSlash = false := (Bool.or_eq_false_iff.mp hname).1
  simp [status, hfind, hget, hslash]

end Disk

namespace SettingsStore

variable {store : SettingsStore} {before after : Disk}

/-- A save that succeeds has made the directories around the file and written the file. -/
theorem save_eq_ok (h : store.save before = (.ok (), after)) :
    ∃ made, before.makeParents store.path = (.ok (), made) ∧
      made.write store.path store.settings.fileText.toUTF8 = .ok after := by
  unfold save at h
  rcases hmake : before.makeParents store.path with ⟨_ | _, made⟩ <;> rw [hmake] at h
  · cases h
  · dsimp only at h
    cases hwrite : made.write store.path store.settings.fileText.toUTF8 with
    | error e =>
      rw [hwrite] at h
      cases h
    | ok written =>
      rw [hwrite] at h
      obtain ⟨-, rfl⟩ := Prod.mk.inj h
      exact ⟨made, rfl, hwrite⟩

/-- A save that fails has at most made directories around the file. -/
theorem save_grown {e : ConfigError} (h : store.save before = (.error e, after)) :
    Disk.Grown (before.around store.path) before after := by
  have hgrown := before.makeParents_grown store.path
  unfold save at h
  rcases hmake : before.makeParents store.path with ⟨_ | _, made⟩ <;>
    rw [hmake] at h hgrown <;> dsimp only at h hgrown
  · obtain ⟨-, rfl⟩ := Prod.mk.inj h
    exact hgrown
  · cases hwrite : made.write store.path store.settings.fileText.toUTF8 with
    | error e =>
      rw [hwrite] at h
      obtain ⟨-, rfl⟩ := Prod.mk.inj h
      exact hgrown
    | ok written =>
      rw [hwrite] at h
      cases h

/-- The saved file is where the path leads, and nothing else but the directories around it is
touched. -/
theorem save_target (h : store.save before = (.ok (), after)) :
    ∃ target, after.find store.path = .ok target ∧
      after.get? target = some (.file store.settings.fileText.toUTF8) ∧
      Disk.WriteFrame store.path (some target) before after := by
  obtain ⟨made, hmake, hwrite⟩ := save_eq_ok h
  obtain ⟨-, -, target, hfind, hdir, rfl⟩ := Disk.write_eq_ok.mp hwrite
  have hgrown : Disk.Grown (before.around store.path) before made := by
    have := before.makeParents_grown store.path
    rw [hmake] at this
    exact this
  refine ⟨target, (Disk.KeepsDirectories.put hdir _).find hfind, ?_, hgrown.writeFrame.put hdir _⟩
  rw [Disk.get?_put_of_ne hdir, if_pos rfl]

theorem load_of_save (h : store.save before = (.ok (), after)) :
    load after store.path = .ok store := by
  obtain ⟨made, -, hwrite⟩ := save_eq_ok h
  obtain ⟨-, hname, -⟩ := Disk.write_eq_ok.mp hwrite
  obtain ⟨target, hfind, hget, -⟩ := save_target h
  have hstatus := Disk.status_eq_file hfind hget hname
  have hhas : after.has store.path = true := by rw [Disk.has, hstatus]
  have hread : after.readText store.path = .ok store.settings.fileText := by
    rw [Disk.readText, Disk.readBytes, hstatus]
    exact Disk.decodeText_toUTF8 _
  rw [load, if_pos hhas, hread]
  simp only [ofText, Settings.ofFileText_fileText]

/-- Saving once more changes nothing. -/
theorem save_again (h : store.save before = (.ok (), after)) :
    store.save after = (.ok (), after) := by
  obtain ⟨made, hmake, hwrite⟩ := save_eq_ok h
  have hkeeps : Disk.KeepsDirectories made after := by
    obtain ⟨-, -, target, -, hdir, rfl⟩ := Disk.write_eq_ok.mp hwrite
    exact .put hdir _
  rw [save, Disk.makeParents_again hmake hkeeps]
  simp only [Disk.write_again hwrite]

/-- A save that succeeds: the settings are loaded again, all of them, and saving them once more
changes nothing. It wrote the file that the path leads to, and no other; directories were added
around that file only. A save that fails has added directories there at most. -/
theorem save_then_load (store : SettingsStore) (before : Disk) :
    match store.save before with
    | (.ok (), after) =>
      load after store.path = .ok store ∧ loadOrDefault after store.path = .ok store ∧
      (∃ target, after.find store.path = .ok target ∧
        after.get? target = some (.file store.settings.fileText.toUTF8) ∧
        Disk.WriteFrame store.path (some target) before after) ∧
      store.save after = (.ok (), after)
    | (.error _, after) => Disk.WriteFrame store.path none before after := by
  rcases h : store.save before with ⟨e | ⟨⟨⟩⟩, after⟩
  · exact (save_grown h).writeFrame
  · have hload := load_of_save h
    refine ⟨hload, ?_, save_target h, save_again h⟩
    rw [loadOrDefault, hload]

/-- A store whose path goes through its directory twice. -/
def detourStore : SettingsStore := ⟨⟨"made/../made/open.toml"⟩, ⟨false, true⟩⟩

/-- A disk without that directory, and with a file of another program. -/
def notesDisk : Disk where
  entries := [(["notes"], .file "buy milk\n".toUTF8)]

/-- The directory is made, the settings are loaded again, and the other file stays. -/
theorem save_then_load_made :
    ∃ after, detourStore.save notesDisk = (.ok (), after) ∧
      load after ⟨"made/../made/open.toml"⟩ = .ok detourStore ∧
      after.get? ["open.toml", "made"] =
        some (.file detourStore.settings.fileText.toUTF8) ∧
      after.get? ["notes"] = some (.file "buy milk\n".toUTF8) := by
  have hsaved : (detourStore.save notesDisk).1.toOption = some () := by decide +kernel
  have htarget : (detourStore.save notesDisk).2.find detourStore.path = .ok ["open.toml", "made"] :=
    Except.toOption_eq_some.mp (by decide +kernel)
  have hsave := save_then_load detourStore notesDisk
  rcases h : detourStore.save notesDisk with ⟨_ | ⟨⟨⟩⟩, after⟩
  · rw [h] at hsaved
    cases hsaved
  · rw [h] at hsave htarget
    obtain ⟨hload, -, ⟨target, hfind, hfile, hframe⟩, -⟩ := hsave
    obtain rfl := Except.ok.inj (htarget.symm.trans hfind)
    exact ⟨after, rfl, hload, hfile, (hframe.file_iff ["notes"] _ (by decide)).mpr rfl⟩

end SettingsStore

end NotificationTap
