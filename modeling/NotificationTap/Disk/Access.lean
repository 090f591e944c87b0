import NotificationTap.Disk.Basic
import NotificationTap.Disk.Path

/-!
# Reading and writing a disk

* `Disk.find`: the location that a path leads to. Every name but the last has to lead to a
  directory; whether the last one leads to anything is for the caller to ask.
* `Disk.status`, `Disk.has`, `Disk.readText`: what a path leads to.
* `Disk.write`: replaces or adds a file.
* `Disk.makeDirs`: adds directories that are missing, each one inside the next. It stops at the
  first that cannot be added, and those added before stay.
* `Disk.provide`, `Disk.remove`: add and remove a file or a whole directory.
* `Disk.below`: what a directory holds.
-/

namespace NotificationTap.Disk

/-! ## Following names -/

/-- The longest name of a file, in bytes. -/
def maxNameBytes : Nat := 255

/-- One more than the longest path, in bytes. -/
def pathBytesLimit : Nat := 4096

/-- A location that has to be a directory's. -/
def directoryAt (disk : Disk) (location : Location) : Except DiskError Location :=
  match disk.get? location with
  | none => .error .notFound
  | some (.file _) => .error .notDirectory
  | some .directory => .ok location

/-- Where a name leads from a location. -/
def enter (disk : Disk) (location : Location) (name : String) : Except DiskError Location :=
  match disk.directoryAt location with
  | .error e => .error e
  | .ok location =>
    if maxNameBytes < name.utf8ByteSize then .error .nameTooLong
    else .ok (Location.step location name)

/-- Where names lead from a location. -/
def follow (disk : Disk) : Location → List String → Except DiskError Location
  | location, [] => .ok location
  | location, name :: names =>
    match disk.enter location name with
    | .error e => .error e
    | .ok inner => disk.follow inner names

/-- Where paths start: at the root or at the current directory. -/
def origin (disk : Disk) (isAbsolute : Bool) : Location := if isAbsolute then [] else disk.here

/-- Why a path leads nowhere on any disk. The limit counts the text as it was given, with doubled
slashes. -/
def refusal? (path : FilePath) : Option DiskError :=
  if path.text.toList.contains '\x00' then some .zeroInName
  else if path.text.isEmpty then some .notFound
  else if pathBytesLimit ≤ path.text.utf8ByteSize then some .nameTooLong
  else none

/-- Where a path leads. -/
def find (disk : Disk) (path : FilePath) : Except DiskError Location :=
  match refusal? path with
  | some e => .error e
  | none => disk.follow (disk.origin path.isAbsolute) path.names

/-- The directory that a path has its last name in. -/
def findAround (disk : Disk) (path : FilePath) : Except DiskError Location :=
  match refusal? path with
  | some e => .error e
  | none =>
    match disk.follow (disk.origin path.isAbsolute) path.names.dropLast with
    | .error e => .error e
    | .ok location => disk.directoryAt location

/-! ## Reading -/

/-- What a path leads to. A slash at its end asks for a directory. -/
def status (disk : Disk) (path : FilePath) : Except DiskError Node :=
  match disk.find path with
  | .error e => .error e
  | .ok location =>
    match disk.get? location with
    | none => .error .notFound
    | some (.file content) => if path.endsInSlash then .error .notDirectory else .ok (.file content)
    | some .directory => .ok .directory

/-- Whether a path leads to anything. A path that cannot be followed does not. -/
def has (disk : Disk) (path : FilePath) : Bool :=
  match disk.status path with
  | .ok _ => true
  | .error _ => false

/-- The text that bytes encode. -/
def decodeText (bytes : ByteArray) : Except DiskError String :=
  match String.fromUTF8? bytes with
  | some text => .ok text
  | none => .error .notText

/-- The bytes of a file. -/
def readBytes (disk : Disk) (path : FilePath) : Except DiskError ByteArray :=
  match disk.status path with
  | .error e => .error e
  | .ok .directory => .error .isDirectory
  | .ok (.file content) => .ok content

/-- The text of a file. -/
def readText (disk : Disk) (path : FilePath) : Except DiskError String :=
  match disk.readBytes path with
  | .error e => .error e
  | .ok bytes => decodeText bytes

/-! ## Writing -/

/-- Whether a path can lead to nothing but a directory. -/
def namesDirectory (path : FilePath) : Bool :=
  path.endsInSlash || path.names.getLast?.all fun name => name = "." || name = ".."

/-- Replaces or adds a file. A path that only a directory can have is refused before its last name
is looked at. -/
def write (disk : Disk) (path : FilePath) (content : ByteArray) : Except DiskError Disk :=
  match disk.findAround path with
  | .error e => .error e
  | .ok _ =>
    if namesDirectory path then .error .isDirectory
    else
      match disk.find path with
      | .error e => .error e
      | .ok location =>
        if disk.get? location = some .directory then .error .isDirectory
        else .ok (disk.put location (.file content))

/-- Adds one directory. -/
def makeDir (disk : Disk) (path : FilePath) : Except DiskError Disk :=
  match disk.find path with
  | .error e => .error e
  | .ok location =>
    match disk.get? location with
    | some _ => .error .alreadyExists
    | none => .ok (disk.put location .directory)

/-- Whether a path leads to a directory. -/
def isDirectory (disk : Disk) (path : FilePath) : Bool :=
  match disk.status path with
  | .ok .directory => true
  | _ => false

/-- Adds one directory unless it is there. -/
def ensureDir (disk : Disk) (path : FilePath) : Except DiskError Unit × Disk :=
  match disk.makeDir path with
  | .ok disk => (.ok (), disk)
  | .error e => (if disk.isDirectory path then .ok () else .error e, disk)

/-- Adds a directory and those above it that are missing. The paths are in reverse, from the
innermost one. -/
def makeDirs (disk : Disk) : List FilePath → Except DiskError Unit × Disk
  | [] => (.ok (), disk)
  | path :: above =>
    match disk.ensureDir path with
    | (.error .notFound, disk) =>
      match disk.makeDirs above with
      | (.ok (), disk) => disk.ensureDir path
      | (.error e, disk) => (.error e, disk)
    | done => done

/-- Adds the directory that a path lies in, with those above it that are missing. -/
def makeParents (disk : Disk) (path : FilePath) : Except DiskError Unit × Disk :=
  disk.makeDirs path.ancestors.reverse

/-- Adds a file, or a directory if there is no content, with all directories around it. What is in
the way stays. -/
def provide (disk : Disk) (path : FilePath) (content? : Option ByteArray) : Disk :=
  match content? with
  | none => (disk.makeDirs path.stages.reverse).2
  | some content =>
    let disk := (disk.makeParents path).2
    match disk.write path content with
    | .ok disk => disk
    | .error _ => disk

/-- Removes a file, or a directory with all that is in it. -/
def remove (disk : Disk) (path : FilePath) : Except DiskError Disk :=
  match disk.status path, disk.find path with
  | .error e, _ => .error e
  | _, .error e => .error e
  | .ok _, .ok location =>
    if path.names.getLast?.all fun name => name = "." || name = ".." then .error .isDirectory
    else .ok (disk.clear location)

/-! ## Listing -/

/-- What is below a location, each with its names from there. -/
def below (disk : Disk) (location : Location) : List (List String × Node) :=
  disk.entries.filterMap fun (place, node) =>
    if location <:+ place ∧ place ≠ location then
      some ((place.take (place.length - location.length)).reverse, node)
    else none

end NotificationTap.Disk
