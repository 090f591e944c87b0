import NotificationTap.CommandLine.Arguments
import NotificationTap.Dispatch
import NotificationTap.SettingsStore

/-!
# Running a command line

* `CommandLine.run`: one run of the program on a disk. The settings are read before the payload,
  and both before anything is done; only `settings set` writes.
* `RunError`: why a run failed. `RunError.chain` is what the user is told.
* `Outcome`: how a run ends. Only a run that succeeds prints anything on its standard output.
-/

namespace NotificationTap.CommandLine

/-! ## Outcomes -/

/-- Why a run failed. -/
inductive RunError where
  /-- The settings were not loaded. The path is the one that the command line gives. -/
  | settings (path? : Option FilePath) (error : ConfigError)
  /-- The payload was not read, from a file or from the standard input. -/
  | payload (path? : Option FilePath) (error : DiskError)
  /-- The payload is not a JSON object. -/
  | malformedPayload (error : Json.Error)
  /-- The decision was not carried out. -/
  | dispatch (error : DispatchError)
  /-- The settings were not saved. -/
  | saving (path : FilePath) (error : ConfigError)
deriving DecidableEq, Repr

/-- The messages of an error, from what was tried to why it failed. -/
def RunError.chain : RunError → List String
  | .settings none error => "failed to load settings" :: error.chain
  | .settings (some path) error => ("failed to load settings from " ++ path.text) :: error.chain
  | .payload none error => ["failed to read payload from stdin", error.message]
  | .payload (some path) error => ["failed to read payload from " ++ path.text, error.message]
  | .malformedPayload error => ["payload must be a JSON object", error.message]
  | .dispatch error => error.chain
  | .saving path error => ("failed to save settings to " ++ path.text) :: error.chain

/-- How a run ends. -/
inductive Outcome where
  /-- It succeeds, and prints this. -/
  | done (output : String)
  /-- It fails. -/
  | failed (error : RunError)
  /-- Its command line has no meaning. -/
  | usage
deriving DecidableEq, Repr

/-- The exit code of a run. -/
def Outcome.exitCode : Outcome → Nat
  | .done _ => 0
  | .failed _ => 1
  | .usage => 2

/-- What a run prints on its standard output. -/
def Outcome.output : Outcome → String
  | .done output => output
  | .failed _ => ""
  | .usage => ""

/-- What a run tells the user of its failure. -/
def Outcome.chain : Outcome → List String
  | .failed error => error.chain
  | _ => []

/-- The end of a run from its result. -/
def Outcome.ofResult : Except RunError String → Outcome
  | .ok output => .done output
  | .error e => .failed e

/-! ## Input -/

/-- The store of the settings file that the command line gives, or else of the usual one. -/
def loadStore (env : Environment) (disk : Disk) : Option FilePath → Except RunError SettingsStore
  | some path => (SettingsStore.loadOrDefault disk path).mapError (.settings (some path))
  | none => (SettingsStore.openUsual env disk).mapError (.settings none)

/-- The payload that a text holds. -/
def parsePayload (text : String) : Except RunError Payload :=
  (Payload.parse text).mapError .malformedPayload

/-- The file of a payload; the path `-` and no path mean the standard input. -/
def payloadFile? (path? : Option FilePath) : Option FilePath := path?.filter (!·.isDash)

/-- Reads a payload from its file or from the standard input. -/
def readPayload (disk : Disk) (stdin : ByteArray) (path? : Option FilePath) :
    Except RunError Payload :=
  match payloadFile? path? with
  | some path => ((disk.readText path).mapError (.payload (some path))).bind parsePayload
  | none => ((Disk.decodeText stdin).mapError (.payload none)).bind parsePayload

/-! ## Output -/

/-- The text of lines. -/
def unlines (lines : List String) : String := String.join (lines.map (· ++ "\n"))

/-- The decision as a JSON text over several lines. -/
def actionText (action : OpenAction) : String := action.toJson.indented ++ "\n"

/-- The name of a browser kind in the output. -/
def browserName : BrowserKind → String
  | .view => "view"
  | .appBrowser => "app-browser"

/-- The line for a request to a browser. -/
def browserLine (intent : BrowserIntent) : String :=
  "open-browser " ++ browserName intent.kind ++ " " ++ intent.url

/-- A dispatcher that adds one line to the output for each call. -/
def printing : Dispatcher (StateM (List String)) where
  openBrowser url := fun lines => (.ok (), lines ++ [browserLine url.browserIntent])
  openApp := fun lines => (.ok (), lines ++ ["open-app"])

/-- What is done for a payload, or that nothing is. -/
def dispatchText (settings : Settings) (payload : Payload) : Except RunError String :=
  match (handle ⟨settings, inAppPreview⟩ printing payload).run [] with
  | (.error e, _) => .error (.dispatch e)
  | (.ok action, lines) =>
    .ok (unlines (if action.isNoop then lines ++ ["nothing to open"] else lines))

/-- The settings and the path of their file. -/
def settingsText (store : SettingsStore) : String :=
  unlines [
    "Path:                " ++ store.path.text,
    "Open app on click:   " ++ Text.truthName store.settings.openApp,
    "Suppress launch URL: " ++ Text.truthName store.settings.suppressUrl]

/-! ## Running -/

/-- Carries out a command. -/
def execute (disk : Disk) (stdin : ByteArray) (store : SettingsStore) : Command → Outcome × Disk
  | .resolve path? overrides =>
    (.ofResult ((readPayload disk stdin path?).map fun payload =>
      actionText (resolve (overrides.apply store.settings) payload)), disk)
  | .dispatch path? overrides =>
    (.ofResult ((readPayload disk stdin path?).bind fun payload =>
      dispatchText (overrides.apply store.settings) payload), disk)
  | .showSettings => (.done (settingsText store), disk)
  | .changeSettings overrides =>
    let store := { store with settings := overrides.apply store.settings }
    match store.save disk with
    | (.error e, disk) => (.failed (.saving store.path e), disk)
    | (.ok (), disk) => (.done (settingsText store), disk)

/-- One run of the program. -/
def run (env : Environment) (arguments : List String) (stdin : ByteArray) (disk : Disk) :
    Outcome × Disk :=
  match Invocation.ofArguments? arguments with
  | none => (.usage, disk)
  | some invocation =>
    match loadStore env disk invocation.config? with
    | .error e => (.failed e, disk)
    | .ok store => execute disk stdin store invocation.command

end NotificationTap.CommandLine
