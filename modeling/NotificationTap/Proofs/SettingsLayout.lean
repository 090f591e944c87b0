import Mathlib.Logic.Basic
import NotificationTap.Proofs.Loading
import NotificationTap.Proofs.StoreRuns
import NotificationTap.Proofs.Toml.Plain

/-!
# Settings files in any layout

Of a settings file, only what it assigns to the known keys makes a difference.

* `Settings.Assigns`: a table assigns a value to a key, or leaves its default.
* `Settings.assigns_of_update`: the settings of a table are what it assigns.
* `SettingsStore.load_document`: a plain document is loaded exactly if it assigns no key twice and
  no string to a known key, whatever else is in it and wherever.
-/

namespace NotificationTap

open Toml (Table Value)
open Toml.Plain (Document IsControl)

namespace Settings

/-! ## Assigned values -/

/-- The keys that a settings file may assign a truth value to. -/
def Known (key : String) : Prop := key = openAppKey ∨ key = suppressUrlKey

/-- A table assigns a truth value to a key, or the key is absent and the value is the default. -/
def Assigns (table : Table) (key : String) (default value : Bool) : Prop :=
  (key, .boolean value) ∈ table ∨ key ∉ table.map Prod.fst ∧ value = default

variable {table : Table} {key : String} {default value : Bool}

theorem Assigns.cons_of_ne (h : Assigns table key default value) {other : String}
    (hne : other ≠ key) (x : Value) : Assigns ((other, x) :: table) key default value := by
  rcases h with hmem | ⟨habsent, hvalue⟩
  · exact .inl (List.mem_cons_of_mem _ hmem)
  · exact .inr ⟨by simpa [Ne.symm hne] using habsent, hvalue⟩

/-- A key that is assigned a value and does not come again keeps it. -/
theorem Assigns.cons_self {assigned : Bool} (h : Assigns table key assigned value)
    (hnew : key ∉ table.map Prod.fst) (default : Bool) :
    Assigns ((key, .boolean assigned) :: table) key default value := by
  rcases h with hmem | ⟨-, rfl⟩
  · exact absurd (List.mem_map_of_mem hmem) hnew
  · exact .inl List.mem_cons_self

/-- The settings of a table are what it assigns, and what they were before for a key that is
absent. -/
theorem assigns_of_update (settings : Settings) {after : Settings}
    (hkeys : (table.map Prod.fst).Nodup) (h : settings.update table = .ok after) :
    Assigns table openAppKey settings.openApp after.openApp ∧
      Assigns table suppressUrlKey settings.suppressUrl after.suppressUrl := by
  induction table generalizing settings with
  | nil =>
    obtain rfl : settings = after := by simpa [update] using h
    simp [Assigns]
  | cons entry table ih =>
    obtain ⟨key, value⟩ := entry
    obtain ⟨hnew, hrest⟩ := List.nodup_cons.mp hkeys
    rw [update] at h
    by_cases hopens : key = openAppKey
    · rw [if_pos hopens] at h
      split at h
      · cases h
      · next openApp hvalue =>
        obtain rfl := Toml.Value.toBoolean_eq_ok.mp hvalue
        obtain ⟨hopen, hsuppress⟩ := ih _ hrest h
        subst hopens
        exact ⟨hopen.cons_self hnew _, hsuppress.cons_of_ne (by decide) _⟩
    · rw [if_neg hopens] at h
      by_cases hsuppresses : key = suppressUrlKey
      · rw [if_pos hsuppresses] at h
        split at h
        · cases h
        · next suppressUrl hvalue =>
          obtain rfl := Toml.Value.toBoolean_eq_ok.mp hvalue
          obtain ⟨hopen, hsuppress⟩ := ih _ hrest h
          subst hsuppresses
          exact ⟨hopen.cons_of_ne (by decide) _, hsuppress.cons_self hnew _⟩
      · rw [if_neg hsuppresses] at h
        obtain ⟨hopen, hsuppress⟩ := ih _ hrest h
        exact ⟨hopen.cons_of_ne hopens _, hsuppress.cons_of_ne hsuppresses _⟩

/-! ## Plain documents -/

/-- A document assigns nothing but truth values and strings. -/
theorem value_cases (document : Document) {entry : String × Value}
    (h : entry ∈ document.entries) : (∃ b, entry.2 = .boolean b) ∨ ∃ s, entry.2 = .string s := by
  obtain ⟨line, -, hassigned⟩ := List.mem_filterMap.mp h
  obtain ⟨a, -, rfl⟩ := Option.map_eq_some_iff.mp hassigned
  cases a.literal with
  | truth value => exact .inl ⟨value, rfl⟩
  | string chars plain => exact .inr ⟨_, rfl⟩

/-- A document is refused for a key that is assigned twice, or a string for a known key. -/
theorem refused_iff (document : Document) : Refused document.text ↔
    ¬(document.keys.Nodup ∧
      ∀ entry ∈ document.entries, Known entry.1 → ∀ s, entry.2 ≠ .string s) := by
  have hparse := Toml.Plain.parse?_text document
  by_cases hkeys : document.keys.Nodup
  · rw [if_pos hkeys] at hparse
    constructor
    · rintro (hnone | ⟨hsome, hmem, hknown, hother⟩) ⟨-, hplain⟩
      · rw [hparse] at hnone
        cases hnone
      · obtain rfl := Option.some.inj (hparse.symm.trans hsome)
        rcases value_cases document hmem with ⟨b, hb⟩ | ⟨s, hs⟩
        · exact hother b hb
        · exact hplain _ hmem hknown s hs
    · intro hnot
      obtain ⟨entry, hmem, hknown, s, hs⟩ : ∃ entry ∈ document.entries, Known entry.1 ∧
          ∃ s, entry.2 = .string s := by
        refine Classical.byContradiction fun hnone => hnot ⟨hkeys, fun entry hmem hknown s hs => ?_⟩
        exact hnone ⟨entry, hmem, hknown, s, hs⟩
      exact .mistyped hparse hmem hknown (by simp [hs])
  · rw [if_neg hkeys] at hparse
    exact iff_of_true (.notToml hparse) fun h => hkeys h.1

/-- The settings of a document are what it assigns, and the defaults for keys that are absent. -/
theorem assigns_of_ofFileText (document : Document) {after : Settings}
    (h : ofFileText document.text = .ok after) :
    Assigns document.entries openAppKey Settings.default.openApp after.openApp ∧
      Assigns document.entries suppressUrlKey Settings.default.suppressUrl after.suppressUrl := by
  rw [ofFileText, Toml.Plain.parse?_text] at h
  by_cases hkeys : document.keys.Nodup
  · rw [if_pos hkeys] at h
    exact assigns_of_update Settings.default hkeys (Except.mapError_eq_ok.mp h)
  · rw [if_neg hkeys] at h
    cases h

end Settings

/-! ## Loading -/

open Settings (Known Assigns)

namespace SettingsStore

variable {disk : Disk} {path : FilePath}

/-- A file that is text is loaded as its text. -/
theorem load_text {text : String} (there : disk.status path = .ok (.file text.toUTF8)) :
    load disk path = ofText path text := by
  rw [load_eq_status, there]
  simp only [Disk.decodeText_toUTF8]

/-- A plain document is loaded exactly if no key is assigned twice and no known key a string. Each
setting is then what its key is assigned, or the default if the key is absent, wherever it stands
and whatever else is there. Otherwise the file is malformed. Loading leaves the disk as it is. -/
theorem load_document (document : Document)
    (there : disk.status path = .ok (.file document.text.toUTF8)) :
    ((∃ store, load disk path = .ok store) ↔ document.keys.Nodup ∧
      ∀ entry ∈ document.entries, Known entry.1 → ∀ s, entry.2 ≠ .string s) ∧
    (∀ store, load disk path = .ok store → store.path = path ∧
      Assigns document.entries openAppKey true store.settings.openApp ∧
      Assigns document.entries suppressUrlKey false store.settings.suppressUrl) ∧
    (∀ e, load disk path = .error e → ∃ fault, e = .malformed fault) ∧
    ∀ env store?, (Session.step env ⟨store?, disk⟩ (.load path)).2.disk = disk := by
  have hload := load_text there
  refine ⟨?_, fun store hok => ⟨path_of_load hok, ?_⟩, fun e herror => ?_,
    fun env store? => Session.step_disk env ⟨store?, disk⟩ rfl⟩
  · rw [hload, ← not_iff_not, ← Settings.refused_iff, ← Settings.ofFileText_eq_error, ofText]
    cases Settings.ofFileText document.text <;> simp
  · rw [hload, ofText] at hok
    split at hok
    · cases hok
    · next settings hsettings =>
      obtain rfl := Except.ok.inj hok
      exact Settings.assigns_of_ofFileText document hsettings
  · rw [hload] at herror
    obtain ⟨fault, -, rfl⟩ := ofText_eq_error.mp herror
    exact ⟨fault, rfl⟩

/-- A document with a byte order mark, two kinds of line ends, comments, a key of no known name, and
one of the known keys. -/
def sparseDocument : Document where
  hasMark := true
  lines :=
    [(⟨⟨['\t'], by simp⟩, none, some ⟨"\tthis device".toList, by simp [IsControl]⟩⟩,
        .carriageReturn),
      (⟨⟨[], by simp⟩, some
        { key := ⟨"theme".toList, by simp, by simp⟩
          beforeSign := ⟨[], by simp⟩
          afterSign := ⟨[], by simp⟩
          literal := .string "# é".toList (by simp [IsControl])
          trailing := ⟨[' '], by simp⟩ }, none⟩, .lineFeed)]
  last := ⟨⟨[], by simp⟩, some
    { key := ⟨suppressUrlKey.toList, by simp [suppressUrlKey], by simp [suppressUrlKey]⟩
      beforeSign := ⟨[' ', '\t'], by simp⟩
      afterSign := ⟨[' '], by simp⟩
      literal := .truth true
      trailing := ⟨[], by simp⟩ }, some ⟨"no URLs = \"\"".toList, by simp [IsControl]⟩⟩

/-- A disk with the sparse document on it. -/
def sparseDisk : Disk where
  entries := [(["open.toml"], .file sparseDocument.text.toUTF8)]

/-- The one key that is there is followed, and the other setting has its default. -/
theorem load_document_sparse : sparseDisk.status ⟨"open.toml"⟩ =
    .ok (.file sparseDocument.text.toUTF8) ∧
    load sparseDisk ⟨"open.toml"⟩ = .ok ⟨⟨"open.toml"⟩, ⟨true, true⟩⟩ := by
  have there : sparseDisk.status ⟨"open.toml"⟩ = .ok (.file sparseDocument.text.toUTF8) := rfl
  have hentries : sparseDocument.entries =
      [("theme", .string "# é"), (suppressUrlKey, .boolean true)] := rfl
  have hkeys : sparseDocument.keys.Nodup := by decide
  obtain ⟨hloaded, hassigned, -, -⟩ := load_document sparseDocument there
  obtain ⟨⟨path, openApp, suppressUrl⟩, hload⟩ := hloaded.mpr ⟨hkeys, by
    simp [hentries, Known, openAppKey, suppressUrlKey]⟩
  obtain ⟨hpath, hopen, hsuppress⟩ := hassigned _ hload
  obtain rfl : openApp = true := by
    simpa [Assigns, hentries, openAppKey, suppressUrlKey] using hopen
  obtain rfl : suppressUrl = true := by
    simpa [Assigns, hentries, suppressUrlKey] using hsuppress
  obtain rfl : path = ⟨"open.toml"⟩ := hpath
  exact ⟨there, hload⟩

end SettingsStore

end NotificationTap
