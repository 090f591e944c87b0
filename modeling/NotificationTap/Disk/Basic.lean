/-!
# Disks

A disk holds files and directories, and one of its directories is the current one.

* `Location`: where something is, once a path has been followed. `Location.step` follows one name,
  `Location.trail` several.
* `Disk.get?`: what is at a location. Two disks with the same answers hold the same.
* `Disk.put`, `Disk.clear`: the two changes. `get?_put` and `get?_clear` say all that they do.
* `DiskError`: why a disk could not do what it was asked to.
-/

namespace NotificationTap

/-- Where something is: its name and the names of the directories around it, innermost first. The
root has no name. -/
abbrev Location := List String

/-- Where a name leads from a directory: it may stay, go out, or go in. There is no way out of the
root. -/
def Location.step (location : Location) (name : String) : Location :=
  if name = "." then location else if name = ".." then location.tail else name :: location

/-- The locations that names lead to, one after the other. -/
def Location.trail (location : Location) : List String → List Location
  | [] => []
  | name :: names => location.step name :: Location.trail (location.step name) names

/-- What may be at a location. -/
inductive Node where
  | file (content : ByteArray)
  | directory

instance : DecidableEq Node := fun
  | .file a, .file b => @decidable_of_iff _ (a = b) (by simp) (ByteArray.instDecidableEq a b)
  | .directory, .directory => .isTrue rfl
  | .file _, .directory => .isFalse (by simp)
  | .directory, .file _ => .isFalse (by simp)

/-- Files and directories, and the directory that relative paths start from. -/
structure Disk where
  /-- What is on the disk, the root excepted. -/
  entries : List (Location × Node) := []
  /-- The current directory. -/
  here : Location := []
deriving DecidableEq

namespace Disk

/-! ## Entries -/

/-- Replaces the entry of a location, or adds one at the end. -/
def store (location : Location) (node : Node) : List (Location × Node) → List (Location × Node)
  | [] => [(location, node)]
  | (other, old) :: rest =>
    if other = location then (location, node) :: rest else (other, old) :: store location node rest

theorem lookup_store (location other : Location) (node : Node) (entries : List (Location × Node)) :
    (store location node entries).lookup other =
      if location = other then some node else entries.lookup other := by
  induction entries with
  | nil =>
    by_cases ho : other = location
    · simp [store, ho]
    · simp [store, List.lookup_cons, beq_false_of_ne ho, Ne.symm ho]
  | cons entry rest ih =>
    obtain ⟨place, old⟩ := entry
    by_cases h : place = location
    · subst h
      by_cases ho : other = place
      · simp [store, ho]
      · simp [store, List.lookup_cons, beq_false_of_ne ho, Ne.symm ho]
    · by_cases ho : other = place
      · subst ho; simp [store, h, Ne.symm h]
      · simp [store, List.lookup_cons, h, beq_false_of_ne ho, ih]

/-! ## Content -/

/-- What is at a location. The root is always a directory. -/
def get? (disk : Disk) (location : Location) : Option Node :=
  if location = [] then some .directory else disk.entries.lookup location

/-- Puts a file or directory at a location. -/
def put (disk : Disk) (location : Location) (node : Node) : Disk :=
  { disk with entries := store location node disk.entries }

/-- Removes what is at a location and everything below it. -/
def clear (disk : Disk) (location : Location) : Disk :=
  { disk with entries := disk.entries.filter fun entry => ¬location <:+ entry.1 }

theorem get?_put {disk : Disk} {location other : Location} {node : Node} (h : location ≠ []) :
    (disk.put location node).get? other =
      if location = other then some node else disk.get? other := by
  by_cases ho : other = []
  · subst ho; simp [get?, h]
  · simp [get?, put, ho, lookup_store]

theorem get?_clear {disk : Disk} {location other : Location} (h : other ≠ []) :
    (disk.clear location).get? other =
      if location <:+ other then none else disk.get? other := by
  simp only [get?, clear, h, if_false]
  induction disk.entries with
  | nil => simp
  | cons entry rest ih =>
    obtain ⟨place, node⟩ := entry
    by_cases hs : location <:+ place <;> by_cases hp : other = place
    · subst hp; simpa [hs] using ih
    · simpa [hs, List.lookup_cons, beq_false_of_ne hp] using ih
    · subst hp; simp [hs]
    · simpa [hs, List.lookup_cons, beq_false_of_ne hp] using ih

end Disk

/-! ## Errors -/

/-- Why a disk could not do what it was asked to. -/
inductive DiskError where
  | notFound
  | alreadyExists
  | notDirectory
  | isDirectory
  | nameTooLong
  | zeroInName
  | notText
deriving DecidableEq, Repr

/-- The words of an error. -/
def DiskError.message : DiskError → String
  | .notFound => "No such file or directory (os error 2)"
  | .alreadyExists => "File exists (os error 17)"
  | .notDirectory => "Not a directory (os error 20)"
  | .isDirectory => "Is a directory (os error 21)"
  | .nameTooLong => "File name too long (os error 36)"
  | .zeroInName => "file name contained an unexpected NUL byte"
  | .notText => "stream did not contain valid UTF-8"

end NotificationTap
