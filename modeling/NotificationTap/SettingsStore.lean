import NotificationTap.Disk.Access
import NotificationTap.SettingsFile

/-!
# Stored settings

* `SettingsStore`: settings in memory, with the path of the file they belong to. Decisions read
  what is in memory; the file changes only when it is saved.
* `SettingsStore.load`, `loadOrDefault`: a store from its file. A file that is absent may stand for
  the default settings; one that cannot be read or understood never does.
* `SettingsStore.save`: writes the file, and the directories around it if they are missing.
* `Environment.settingsPath`: where the file is unless the user says otherwise.
-/

namespace NotificationTap

/-- Settings in memory, and the path of their file. -/
structure SettingsStore where
  /-- Where the settings are loaded from and saved to. -/
  path : FilePath
  /-- The settings. -/
  settings : Settings
deriving DecidableEq, Repr

/-- Why a store was not loaded or saved. -/
inductive ConfigError where
  /-- The disk refused to read or write. -/
  | disk (error : DiskError)
  /-- The file's text holds no settings. -/
  | malformed (fault : SettingsFault)
  /-- There is no file. -/
  | notFound (path : FilePath)
deriving DecidableEq, Repr

/-- The words of an error. What a TOML reader says of a malformed text, which would follow behind a
colon, is left out. -/
def ConfigError.message : ConfigError → String
  | .disk error => "Failed to read config file: " ++ error.message
  | .malformed _ => "Failed to parse config"
  | .notFound path => "Config file not found at " ++ path.text

/-- The messages of an error, from what was tried to why it failed. The disk's own message is the
last; that of a TOML reader, for a malformed text, is left out here as well. -/
def ConfigError.chain : ConfigError → List String
  | .disk error => [(ConfigError.disk error).message, error.message]
  | error => [error.message]

namespace SettingsStore

/-! ## Loading -/

/-- A store from the text of its file. -/
def ofText (path : FilePath) (text : String) : Except ConfigError SettingsStore :=
  match Settings.ofFileText text with
  | .error fault => .error (.malformed fault)
  | .ok settings => .ok ⟨path, settings⟩

/-- A store from its file. -/
def load (disk : Disk) (path : FilePath) : Except ConfigError SettingsStore :=
  if disk.has path then
    match disk.readText path with
    | .error e => .error (.disk e)
    | .ok text => ofText path text
  else .error (.notFound path)

/-- A store from its file, with the default settings if there is none. -/
def loadOrDefault (disk : Disk) (path : FilePath) : Except ConfigError SettingsStore :=
  match load disk path with
  | .error (.notFound path) => .ok ⟨path, Settings.default⟩
  | loaded => loaded

/-! ## Saving -/

/-- Writes a store's file. The directories around it are made first, and stay if writing fails. -/
def save (store : SettingsStore) (disk : Disk) : Except ConfigError Unit × Disk :=
  match disk.makeParents store.path with
  | (.error e, disk) => (.error (.disk e), disk)
  | (.ok (), disk) =>
    match disk.write store.path store.settings.fileText.toUTF8 with
    | .error e => (.error (.disk e), disk)
    | .ok disk => (.ok (), disk)

end SettingsStore

/-! ## The usual place -/

/-- What the surroundings of a run say about where its settings are. -/
structure Environment where
  /-- The path of the settings file. -/
  settingsFile? : Option String := none
  /-- The directory of all programs' settings; only an absolute path counts. -/
  configHome? : Option String := none
  /-- The user's home; the empty one does not count. -/
  home? : Option String := none
  /-- The home that the user's account names. -/
  accountHome? : Option String := none
deriving DecidableEq, Repr

namespace Environment

/-- The user's home. -/
def homePath? (env : Environment) : Option FilePath :=
  ((env.home?.filter (!·.isEmpty)).or env.accountHome?).map FilePath.mk

/-- The directory of all programs' settings. -/
def configDirectory (env : Environment) : FilePath :=
  match (env.configHome?.map FilePath.mk).filter FilePath.isAbsolute with
  | some path => path
  | none =>
    match env.homePath? with
    | some home => home.join ".config"
    | none => ⟨"/etc"⟩

/-- The path of the settings file, unless the user says otherwise. -/
def settingsPath (env : Environment) : FilePath :=
  match env.settingsFile? with
  | some path => ⟨path⟩
  | none => (env.configDirectory.join "tapthrough").join "open.toml"

end Environment

/-- The store of the usual place. -/
def SettingsStore.openUsual (env : Environment) (disk : Disk) : Except ConfigError SettingsStore :=
  loadOrDefault disk env.settingsPath

end NotificationTap
