import NotificationTap.Resolver
import NotificationTap.SettingsStore

/-!
# Sessions

A session is a program that holds at most one settings store, while it and others change the disk.

* `Session.Step`, `Session.Answer`: what a session is asked, and what it answers.
* `Session.step`: one step. Decisions follow the store in memory, whatever became of its file.
-/

namespace NotificationTap

/-- A disk, and the settings store of a program if it has one yet. -/
structure Session where
  /-- The store. -/
  store? : Option SettingsStore := none
  /-- The disk. -/
  disk : Disk := {}

namespace Session

/-- What a session is asked. -/
inductive Step where
  | new (path : FilePath) (settings : Settings)
  | load (path : FilePath)
  | loadOrDefault (path : FilePath)
  | openUsual
  | usualPath
  | setOpenApp (value : Bool)
  | setSuppressUrl (value : Bool)
  | save
  | resolve (payload : String)
  /-- Adds a file from outside, or a directory if there is no content. -/
  | provide (path : FilePath) (content? : Option ByteArray)
  /-- Removes a file or directory from outside. -/
  | remove (path : FilePath)

/-- What a session answers. -/
inductive Answer where
  | done
  | noStore
  | path (path : FilePath)
  | action (action : OpenAction)
  | malformedPayload (error : Json.Error)
  | failed (error : ConfigError)
  | removed (whether : Bool)

/-- Takes the place of the store, if there is a new one. -/
def replace (session : Session) : Except ConfigError SettingsStore → Answer × Session
  | .ok store => (.done, { session with store? := some store })
  | .error e => (.failed e, session)

/-- Changes the settings in memory. -/
def modify (session : Session) (change : Settings → Settings) : Answer × Session :=
  match session.store? with
  | none => (.noStore, session)
  | some store =>
    (.done, { session with store? := some { store with settings := change store.settings } })

/-- Saves the store. -/
def save (session : Session) : Answer × Session :=
  match session.store? with
  | none => (.noStore, session)
  | some store =>
    match store.save session.disk with
    | (.ok (), disk) => (.done, { session with disk })
    | (.error e, disk) => (.failed e, { session with disk })

/-- The decision on a payload's text under the settings in memory. -/
def resolve (session : Session) (payload : String) : Answer :=
  match session.store? with
  | none => .noStore
  | some store =>
    match Payload.parse payload with
    | .error e => .malformedPayload e
    | .ok payload => .action (NotificationTap.resolve store.settings payload)

/-- Removes a file or directory, if it is there. -/
def remove (session : Session) (path : FilePath) : Answer × Session :=
  match session.disk.remove path with
  | .ok disk => (.removed true, { session with disk })
  | .error _ => (.removed false, session)

/-- One step of a session. -/
def step (env : Environment) (session : Session) : Step → Answer × Session
  | .new path settings => session.replace (.ok ⟨path, settings⟩)
  | .load path => session.replace (SettingsStore.load session.disk path)
  | .loadOrDefault path => session.replace (SettingsStore.loadOrDefault session.disk path)
  | .openUsual => session.replace (SettingsStore.openUsual env session.disk)
  | .usualPath => (.path env.settingsPath, session)
  | .setOpenApp value => session.modify fun settings => { settings with openApp := value }
  | .setSuppressUrl value => session.modify fun settings => { settings with suppressUrl := value }
  | .save => session.save
  | .resolve payload => (session.resolve payload, session)
  | .provide path content? =>
    (.done, { session with disk := session.disk.provide path content? })
  | .remove path => session.remove path

end Session

end NotificationTap
