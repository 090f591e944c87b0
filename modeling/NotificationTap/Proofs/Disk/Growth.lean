import NotificationTap.Disk.Access
import NotificationTap.Proofs.Disk.Ancestors

/-!
# What making directories and writing change

* `Disk.KeepsDirectories`: no directory is lost. Then paths still lead where they led.
* `Disk.Grown`: directories were added at some of the places given, and nothing else was changed.
* `Disk.around`: the locations that a path passes through before its last name.
* `Disk.makeParents_grown`: making the directories around a path adds directories there only,
  whether or not it succeeds. `Disk.makeParents_again`: once they are there, nothing is left to do.
* `Disk.write_eq_ok`: what a written file replaces. `Disk.write_again`: writing it again changes
  nothing.
-/

namespace NotificationTap

/-! ## Locations -/

theorem Location.trail_subset {names more : List String} (h : names <+: more)
    (location : Location) : location.trail names ⊆ location.trail more := by
  induction names generalizing more location with
  | nil => exact List.nil_subset _
  | cons name names ih =>
    obtain ⟨more, rfl, hmore⟩ := List.cons_prefix_iff.mp h
    exact List.cons_subset_cons _ (ih hmore _)

namespace Disk

theorem get?_root (disk : Disk) : disk.get? [] = some .directory := if_pos rfl

/-- What is put where no directory is changes nothing elsewhere; the root is a directory. -/
theorem get?_put_of_ne {disk : Disk} {location other : Location} {node : Node}
    (h : disk.get? location ≠ some .directory) :
    (disk.put location node).get? other =
      if location = other then some node else disk.get? other :=
  get?_put (by rintro rfl; exact h disk.get?_root)

theorem store_store (location : Location) (node other : Node) (entries : List (Location × Node)) :
    store location node (store location other entries) = store location node entries := by
  induction entries with
  | nil => simp [store]
  | cons entry rest ih =>
    obtain ⟨place, old⟩ := entry
    by_cases h : place = location <;> simp [store, h, ih]

theorem put_put (disk : Disk) (location : Location) (node other : Node) :
    (disk.put location other).put location node = disk.put location node := by
  simp only [put, store_store]

/-! ## Following names -/

theorem directoryAt_eq_ok {disk : Disk} {location other : Location} :
    disk.directoryAt location = .ok other ↔
      disk.get? location = some .directory ∧ location = other := by
  unfold directoryAt
  cases disk.get? location with
  | none => simp
  | some node => cases node <;> simp

theorem enter_eq_ok {disk : Disk} {location inner : Location} {name : String} :
    disk.enter location name = .ok inner ↔ disk.get? location = some .directory ∧
      name.utf8ByteSize ≤ maxNameBytes ∧ location.step name = inner := by
  unfold enter directoryAt
  cases disk.get? location with
  | none => simp
  | some node =>
    cases node with
    | file content => simp
    | directory =>
      by_cases h : maxNameBytes < name.utf8ByteSize
      · simp [h, Nat.not_le.mpr h]
      · simp [h, Nat.le_of_not_lt h]

theorem follow_cons_eq_ok {disk : Disk} {location last : Location} {name : String}
    {names : List String} :
    disk.follow location (name :: names) = .ok last ↔
      ∃ inner, disk.enter location name = .ok inner ∧ disk.follow inner names = .ok last := by
  rw [follow]
  cases disk.enter location name <;> simp

/-- Names lead to one of the locations on their trail. -/
theorem mem_trail_of_follow {disk : Disk} {location last : Location} {names : List String}
    (h : disk.follow location names = .ok last) (hne : names ≠ []) :
    last ∈ location.trail names := by
  induction names generalizing location with
  | nil => exact absurd rfl hne
  | cons name names ih =>
    obtain ⟨inner, henter, hfollow⟩ := follow_cons_eq_ok.mp h
    obtain ⟨-, -, rfl⟩ := enter_eq_ok.mp henter
    rw [Location.trail]
    cases names with
    | nil =>
      obtain rfl : location.step name = last := by simpa [follow] using hfollow
      exact List.mem_cons_self
    | cons next names => exact List.mem_cons_of_mem _ (ih hfollow (List.cons_ne_nil _ _))

theorem find_eq_ok {disk : Disk} {path : FilePath} {location : Location} :
    disk.find path = .ok location ↔ refusal? path = none ∧
      disk.follow (disk.origin path.isAbsolute) path.names = .ok location := by
  unfold find
  cases refusal? path <;> simp

theorem findAround_eq_ok {disk : Disk} {path : FilePath} {location : Location} :
    disk.findAround path = .ok location ↔ refusal? path = none ∧
      disk.follow (disk.origin path.isAbsolute) path.names.dropLast = .ok location ∧
      disk.get? location = some .directory := by
  unfold findAround
  cases refusal? path with
  | some e => simp
  | none =>
    cases disk.follow (disk.origin path.isAbsolute) path.names.dropLast with
    | error e => simp
    | ok place =>
      simp only [directoryAt_eq_ok, true_and, Except.ok.injEq]
      constructor
      · rintro ⟨h, rfl⟩
        exact ⟨rfl, h⟩
      · rintro ⟨rfl, h⟩
        exact ⟨h, rfl⟩

theorem isDirectory_iff {disk : Disk} {path : FilePath} :
    disk.isDirectory path = true ↔
      ∃ location, disk.find path = .ok location ∧ disk.get? location = some .directory := by
  unfold isDirectory status
  cases disk.find path with
  | error e => simp
  | ok location =>
    simp only [Except.ok.injEq, exists_eq_left']
    cases disk.get? location with
    | none => simp
    | some node =>
      cases node with
      | directory => simp
      | file content => cases path.endsInSlash <;> simp

/-! ## Directories that stay -/

/-- No directory is lost, and the current one stays. -/
structure KeepsDirectories (before after : Disk) : Prop where
  /-- The current directory stays. -/
  here : after.here = before.here
  /-- A directory stays one. -/
  directory : ∀ location, before.get? location = some .directory →
    after.get? location = some .directory

namespace KeepsDirectories

variable {before after : Disk} (h : KeepsDirectories before after)

include h

theorem origin (isAbsolute : Bool) : after.origin isAbsolute = before.origin isAbsolute := by
  rw [Disk.origin, Disk.origin, h.here]

theorem follow {location last : Location} {names : List String}
    (hfollow : before.follow location names = .ok last) :
    after.follow location names = .ok last := by
  induction names generalizing location with
  | nil => exact hfollow
  | cons name names ih =>
    obtain ⟨inner, henter, hrest⟩ := follow_cons_eq_ok.mp hfollow
    obtain ⟨hdir, hname, hstep⟩ := enter_eq_ok.mp henter
    exact follow_cons_eq_ok.mpr
      ⟨inner, enter_eq_ok.mpr ⟨h.directory _ hdir, hname, hstep⟩, ih hrest⟩

theorem find {path : FilePath} {location : Location} (hfind : before.find path = .ok location) :
    after.find path = .ok location := by
  obtain ⟨hpath, hfollow⟩ := find_eq_ok.mp hfind
  exact find_eq_ok.mpr ⟨hpath, by rw [h.origin]; exact h.follow hfollow⟩

theorem findAround {path : FilePath} {location : Location}
    (hfind : before.findAround path = .ok location) : after.findAround path = .ok location := by
  obtain ⟨hpath, hfollow, hdir⟩ := findAround_eq_ok.mp hfind
  exact findAround_eq_ok.mpr
    ⟨hpath, by rw [h.origin]; exact h.follow hfollow, h.directory _ hdir⟩

theorem isDirectory {path : FilePath} (hdir : before.isDirectory path = true) :
    after.isDirectory path = true := by
  obtain ⟨location, hfind, hget⟩ := isDirectory_iff.mp hdir
  exact isDirectory_iff.mpr ⟨location, h.find hfind, h.directory _ hget⟩

end KeepsDirectories

/-- What is put where no directory is leaves all directories. -/
theorem KeepsDirectories.put {disk : Disk} {location : Location}
    (h : disk.get? location ≠ some .directory) (node : Node) :
    KeepsDirectories disk (disk.put location node) where
  here := rfl
  directory other hother := by
    have hne : location ≠ other := by rintro rfl; exact h hother
    rw [get?_put_of_ne h, if_neg hne, hother]

/-! ## Directories that are added -/

/-- Directories were added at some of the places, and nothing else was changed. -/
structure Grown (places : List Location) (before after : Disk) : Prop where
  /-- The current directory stays. -/
  here : after.here = before.here
  /-- What is at a location stays, and a directory is added only where nothing was. -/
  get? : ∀ location, after.get? location = before.get? location ∨
    location ∈ places ∧ before.get? location = none ∧ after.get? location = some .directory

namespace Grown

variable {places : List Location} {before middle after : Disk}

theorem refl (places : List Location) (disk : Disk) : Grown places disk disk :=
  ⟨rfl, fun _ => .inl rfl⟩

theorem trans (h : Grown places before middle) (h' : Grown places middle after) :
    Grown places before after where
  here := h'.here.trans h.here
  get? location := by
    rcases h.get? location with heq | ⟨hmem, hnone, hdir⟩
    · rw [← heq]
      exact h'.get? location
    · refine .inr ⟨hmem, hnone, ?_⟩
      rcases h'.get? location with heq | ⟨-, -, hdir'⟩
      · rw [heq, hdir]
      · exact hdir'

theorem of_some (h : Grown places before after) {location : Location} {node : Node}
    (hnode : before.get? location = some node) : after.get? location = some node := by
  rcases h.get? location with heq | ⟨-, hnone, -⟩
  · rw [heq, hnode]
  · rw [hnone] at hnode
    cases hnode

theorem file_iff (h : Grown places before after) {location : Location} {content : ByteArray} :
    after.get? location = some (.file content) ↔ before.get? location = some (.file content) := by
  refine ⟨fun hfile => ?_, h.of_some⟩
  rcases h.get? location with heq | ⟨-, -, hdir⟩
  · rw [← heq, hfile]
  · rw [hdir] at hfile
    cases hfile

theorem keepsDirectories (h : Grown places before after) : KeepsDirectories before after :=
  ⟨h.here, fun _ => h.of_some⟩

end Grown

/-- The locations that a path passes through before its last name. -/
def around (disk : Disk) (path : FilePath) : List Location :=
  (disk.origin path.isAbsolute).trail path.names.dropLast

theorem around_eq {disk other : Disk} (h : other.here = disk.here) (path : FilePath) :
    other.around path = disk.around path := by
  rw [around, around, origin, origin, h]

/-- An ancestor of a path leads to a location around it. -/
theorem mem_around {disk : Disk} {path ancestor : FilePath} {location : Location}
    (h : ancestor ∈ path.ancestors) (hfind : disk.find ancestor = .ok location) :
    location ∈ disk.around path := by
  obtain ⟨habs, hne, hstart⟩ := FilePath.mem_ancestors h
  obtain ⟨-, hfollow⟩ := find_eq_ok.mp hfind
  rw [habs] at hfollow
  exact Location.trail_subset hstart _ (mem_trail_of_follow hfollow hne)

/-! ## Making directories -/

theorem makeDir_eq_ok {disk after : Disk} {path : FilePath} :
    disk.makeDir path = .ok after ↔ ∃ location, disk.find path = .ok location ∧
      disk.get? location = none ∧ disk.put location .directory = after := by
  unfold makeDir
  cases disk.find path with
  | error e => simp
  | ok location => cases h : disk.get? location <;> simp [h]

theorem ensureDir_grown {disk : Disk} {path : FilePath} {places : List Location}
    (h : ∀ location, disk.find path = .ok location → location ∈ places) :
    Grown places disk (disk.ensureDir path).2 := by
  unfold ensureDir
  cases hmake : disk.makeDir path with
  | error e => exact .refl places disk
  | ok after =>
    obtain ⟨location, hfind, hnone, rfl⟩ := makeDir_eq_ok.mp hmake
    have hdir : disk.get? location ≠ some .directory := by simp [hnone]
    refine ⟨rfl, fun other => ?_⟩
    by_cases hother : location = other
    · subst hother
      exact .inr ⟨h location hfind, hnone, by rw [get?_put_of_ne hdir, if_pos rfl]⟩
    · exact .inl (by rw [get?_put_of_ne hdir, if_neg hother])

theorem isDirectory_of_ensureDir {disk after : Disk} {path : FilePath}
    (h : disk.ensureDir path = (.ok (), after)) : after.isDirectory path = true := by
  unfold ensureDir at h
  cases hmake : disk.makeDir path with
  | error e =>
    rw [hmake] at h
    by_cases hdir : disk.isDirectory path = true
    · obtain ⟨-, rfl⟩ := by simpa [hdir] using h
      exact hdir
    · simp [hdir] at h
  | ok made =>
    rw [hmake] at h
    obtain ⟨-, rfl⟩ := Prod.mk.inj h
    obtain ⟨location, hfind, hnone, rfl⟩ := makeDir_eq_ok.mp hmake
    have hdir : disk.get? location ≠ some .directory := by simp [hnone]
    exact isDirectory_iff.mpr ⟨location, (KeepsDirectories.put hdir _).find hfind,
      by rw [get?_put_of_ne hdir, if_pos rfl]⟩

/-- A directory that is there is not made again. -/
theorem ensureDir_of_isDirectory {disk : Disk} {path : FilePath}
    (h : disk.isDirectory path = true) : disk.ensureDir path = (.ok (), disk) := by
  obtain ⟨location, hfind, hdir⟩ := isDirectory_iff.mp h
  simp [ensureDir, makeDir, hfind, hdir, h]

/-- The paths are followed on disks that have grown already, so where they lead has to hold for any
disk with the same current directory. -/
theorem makeDirs_grown {places : List Location} {paths : List FilePath} {disk : Disk}
    (h : ∀ path ∈ paths, ∀ other : Disk, other.here = disk.here →
      ∀ location, other.find path = .ok location → location ∈ places) :
    Grown places disk (disk.makeDirs paths).2 := by
  induction paths generalizing disk with
  | nil => exact .refl places disk
  | cons path above ih =>
    obtain ⟨hpath, habove⟩ := List.forall_mem_cons.mp h
    have hfirst : Grown places disk (disk.ensureDir path).2 := ensureDir_grown (hpath disk rfl)
    rw [makeDirs]
    split
    case _ missing hmissing =>
      rw [hmissing] at hfirst
      have hrest : Grown places missing (missing.makeDirs above).2 :=
        ih fun p hp other hhere => habove p hp other (hhere.trans hfirst.here)
      split
      case _ made hmade =>
        rw [hmade] at hrest
        have hall := hfirst.trans hrest
        exact hall.trans (ensureDir_grown (hpath made hall.here))
      case _ e stuck hstuck =>
        rw [hstuck] at hrest
        exact hfirst.trans hrest
    case _ => exact hfirst

theorem isDirectory_of_makeDirs {disk after : Disk} {path : FilePath} {above : List FilePath}
    (h : disk.makeDirs (path :: above) = (.ok (), after)) : after.isDirectory path = true := by
  rw [makeDirs] at h
  split at h
  · split at h
    · exact isDirectory_of_ensureDir h
    · cases h
  · exact isDirectory_of_ensureDir h

/-- Directories are added around the path only, whether or not all that are missing can be. -/
theorem makeParents_grown (disk : Disk) (path : FilePath) :
    Grown (disk.around path) disk (disk.makeParents path).2 := by
  refine makeDirs_grown fun ancestor hmem other hhere location hfind => ?_
  rw [← around_eq hhere]
  exact mem_around (List.mem_reverse.mp hmem) hfind

/-- Once the directories around a path are there, making them changes nothing. -/
theorem makeParents_again {disk made after : Disk} {path : FilePath}
    (h : disk.makeParents path = (.ok (), made)) (hkeeps : KeepsDirectories made after) :
    after.makeParents path = (.ok (), after) := by
  unfold makeParents at h ⊢
  cases hpaths : path.ancestors.reverse with
  | nil => rfl
  | cons innermost above =>
    rw [hpaths] at h
    rw [makeDirs, ensureDir_of_isDirectory (hkeeps.isDirectory (isDirectory_of_makeDirs h))]

/-! ## Writing -/

theorem write_eq_ok {disk after : Disk} {path : FilePath} {content : ByteArray} :
    disk.write path content = .ok after ↔ (∃ directory, disk.findAround path = .ok directory) ∧
      namesDirectory path = false ∧ ∃ target, disk.find path = .ok target ∧
        disk.get? target ≠ some .directory ∧ disk.put target (.file content) = after := by
  unfold write
  cases disk.findAround path with
  | error e => simp
  | ok directory =>
    cases namesDirectory path with
    | true => simp
    | false =>
      cases disk.find path with
      | error e => simp
      | ok target => by_cases h : disk.get? target = some .directory <;> simp [h]

/-- Writing a file again changes nothing. -/
theorem write_again {disk after : Disk} {path : FilePath} {content : ByteArray}
    (h : disk.write path content = .ok after) : after.write path content = .ok after := by
  obtain ⟨⟨directory, haround⟩, hname, target, hfind, hdir, rfl⟩ := write_eq_ok.mp h
  have hkeeps := KeepsDirectories.put hdir (.file content)
  refine write_eq_ok.mpr ⟨⟨directory, hkeeps.findAround haround⟩, hname, target,
    hkeeps.find hfind, ?_, put_put ..⟩
  rw [get?_put_of_ne hdir, if_pos rfl]
  simp

end Disk

end NotificationTap
