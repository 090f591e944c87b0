import NotificationTap.CommandLine.Run

/-!
# The program

`CommandLine.run` works on a disk that is a value. Here the part of the real disk that a command
line names is read into such a value, and what the run changed is written back.
-/

namespace NotificationTap.CommandLine

/-- The files that a command line names. -/
def Invocation.files (env : Environment) (invocation : Invocation) : List FilePath :=
  let payload? :=
    match invocation.command with
    | .resolve path? _ => payloadFile? path?
    | .dispatch path? _ => payloadFile? path?
    | _ => none
  invocation.config?.getD env.settingsPath :: payload?.toList

/-- Whether a command reads the standard input. -/
def Command.readsInput : Command → Bool
  | .resolve path? _ => (payloadFile? path?).isNone
  | .dispatch path? _ => (payloadFile? path?).isNone
  | _ => false

/-- The path of a location. -/
def locationText (location : Location) : String := "/" ++ "/".intercalate location.reverse

/-- What the real disk holds at a location that lies in a directory. -/
def readNode (location : Location) : IO (Option Node) := do
  try
    return some (.file (← IO.FS.readBinFile (locationText location)))
  catch
    | .noFileOrDirectory .. => return none
    | .inappropriateType .. => return some .directory
    | e => throw e

/-- Reads what is at the locations of one path. -/
def readTrail (disk : Disk) (locations : List Location) : IO Disk :=
  locations.foldlM (fun disk location => do
    if (disk.get? location).isSome then return disk
    if disk.get? location.tail ≠ some .directory then return disk
    match ← readNode location with
    | none => return disk
    | some node => return disk.put location node) disk

/-- The part of the real disk around the current directory and some paths. -/
def readDisk (paths : List FilePath) : IO Disk := do
  let names := FilePath.names ⟨(← IO.currentDir).toString⟩
  let start ← readTrail { here := names.reverse } (Location.trail [] names)
  paths.foldlM (fun disk path =>
    readTrail disk (Location.trail (disk.origin path.isAbsolute) path.names)) start

/-- Changes the real disk as a run has changed its value. -/
def writeDisk (before after : Disk) : IO Unit :=
  after.entries.forM fun (location, node) => do
    if before.get? location ≠ some node then
      match node with
      | .directory => IO.FS.createDir (locationText location)
      | .file content => IO.FS.writeBinFile (locationText location) content

/-- All that is left of a stream. -/
partial def readAll (stream : IO.FS.Stream) (before : ByteArray) : IO ByteArray := do
  let chunk ← stream.read 65536
  if chunk.isEmpty then return before else readAll stream (before ++ chunk)

/-- What the surroundings say about the settings file. -/
def readEnvironment : IO Environment := do
  return {
    settingsFile? := ← IO.getEnv "TAPTHROUGH_CONFIG"
    configHome? := ← IO.getEnv "XDG_CONFIG_HOME"
    home? := ← IO.getEnv "HOME" }

/-- How the program is called. -/
def usageText : String := unlines [
  "Usage: tapthrough [--config PATH] resolve|open [PAYLOAD] [OPTIONS]",
  "       tapthrough [--config PATH] settings show",
  "       tapthrough [--config PATH] settings set [OPTIONS]",
  "",
  "Options:",
  "  --open-app true|false",
  "  --suppress-launch-url true|false"]

/-- What is printed as errors. -/
def Outcome.errorText (outcome : Outcome) : String :=
  match outcome with
  | .done _ => ""
  | .failed error => unlines ("Error:" :: error.chain.map ("  " ++ ·))
  | .usage => usageText

end NotificationTap.CommandLine

open NotificationTap NotificationTap.CommandLine

/-- Runs the program on the real disk. -/
def main (arguments : List String) : IO UInt32 := do
  let env ← readEnvironment
  let invocation? := Invocation.ofArguments? arguments
  let before ← readDisk ((invocation?.map (·.files env)).getD [])
  let stdin ←
    if invocation?.any (·.command.readsInput) then readAll (← IO.getStdin) .empty
    else pure .empty
  let (outcome, after) := run env arguments stdin before
  writeDisk before after
  IO.print outcome.output
  IO.eprint outcome.errorText
  return outcome.exitCode.toUInt32
