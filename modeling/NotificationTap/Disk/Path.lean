/-!
# Paths

* `FilePath`: a path as it was given, which is also how it is shown.
* `FilePath.names`: the names that it passes through; doubled slashes make no name.
* `FilePath.stages`: the paths of what it passes through, each as far as the text goes there.
* `FilePath.ancestors`: the paths of the directories that it lies in.
* `FilePath.join`: a path followed by one more name.
* `FilePath.isDash`: the path `-`, by which a command line means its standard input.
-/

namespace NotificationTap

/-- A path, as it was given. -/
structure FilePath where
  /-- The text of the path. -/
  text : String
deriving DecidableEq, Repr

namespace FilePath

/-- The pieces of a text between its slashes. -/
def pieces : List Char → List (List Char)
  | [] => [[]]
  | c :: rest =>
    if c = '/' then [] :: pieces rest
    else
      match pieces rest with
      | [] => [[c]]
      | piece :: others => (c :: piece) :: others

/-- The names on the way, from the outermost one; `.` and `..` are among them. -/
def names (path : FilePath) : List String :=
  ((pieces path.text.toList).filter (!·.isEmpty)).map String.ofList

/-- Whether the path starts at the root of the disk. -/
def isAbsolute (path : FilePath) : Bool := path.text.toList.head? = some '/'

/-- Whether the path ends in a slash, as only a directory's may. -/
def endsInSlash (path : FilePath) : Bool := path.text.toList.getLast? = some '/'

/-- The names without those that stay where they are. -/
def properNames (path : FilePath) : List String := path.names.filter (· ≠ ".")

/-- Texts that end after a name, from pieces between slashes. A piece that stays where it is does
not end a text, but the next one holds it. -/
def stageTexts : List (List Char) → List (List Char)
  | [] => []
  | piece :: rest =>
    let later := (stageTexts rest).map (piece ++ '/' :: ·)
    if piece.isEmpty || piece = ['.'] then later else piece :: later

/-- The paths of what the path passes through, from the outermost one to itself: for each proper
name, the text up to its end. -/
def stages (path : FilePath) : List FilePath :=
  (stageTexts (pieces path.text.toList)).map fun text => ⟨String.ofList text⟩

/-- The paths of the directories that the path lies in, from the outermost one. The root and the
current directory are not among them. -/
def ancestors (path : FilePath) : List FilePath := path.stages.dropLast

/-- A path followed by one more name. -/
def join (path : FilePath) (name : String) : FilePath :=
  if path.text.isEmpty || path.endsInSlash then ⟨path.text ++ name⟩
  else ⟨path.text ++ "/" ++ name⟩

/-- Whether the path is a lone `-`. Slashes and `.` after it make no difference, `.` before it
does. -/
def isDash (path : FilePath) : Bool :=
  !path.isAbsolute && path.names.head? = some "-" && path.properNames = ["-"]

end FilePath

end NotificationTap
