import NotificationTap.Proofs.Transport
import NotificationTap.Session

/-!
# Runs of a session

A run is any sequence of steps, in which the disk and the store in memory change in any order.

* `Session.run`, `Session.events`: where a run leads, and its steps with the disks they find.
* `Session.Change`: what an event does to the store in memory.
* `Session.snapshot`: the store in memory as the events of a run tell it.
* `Session.run_snapshot`: a run's store is its snapshot, decisions follow it and change nothing, and
  the disk changes only in the steps that are there to change it.
-/

namespace NotificationTap.Session

/-! ## Runs -/

/-- Where steps lead, one after the other. -/
def run (env : Environment) (session : Session) : List Step → Session
  | [] => session
  | step :: steps => run env (session.step env step).2 steps

/-- A step of a run, and the disk that it finds. -/
structure Event where
  /-- The step. -/
  step : Step
  /-- The disk before the step. -/
  disk : Disk

/-- The steps of a run, each with the disk that it finds. -/
def events (env : Environment) (session : Session) : List Step → List Event
  | [] => []
  | step :: steps => ⟨step, session.disk⟩ :: events env (session.step env step).2 steps

/-! ## The store in memory -/

/-- What may happen to the store in memory. -/
inductive Change where
  | keep
  | replace (store : SettingsStore)
  | setOpenApp (value : Bool)
  | setSuppressUrl (value : Bool)

/-- The store in memory after a change. Without a store there is nothing to set. -/
def Change.apply (store? : Option SettingsStore) : Change → Option SettingsStore
  | .keep => store?
  | .replace store => some store
  | .setOpenApp value => store?.map fun store => ⟨store.path, ⟨value, store.settings.suppressUrl⟩⟩
  | .setSuppressUrl value => store?.map fun store => ⟨store.path, ⟨store.settings.openApp, value⟩⟩

/-- A store that was loaded takes the place of the one in memory; one that was not leaves it. -/
def Change.ofLoaded : Except ConfigError SettingsStore → Change
  | .ok store => .replace store
  | .error _ => .keep

/-- What an event does to the store in memory. Saving, deciding and whatever becomes of the disk do
nothing to it. -/
def Event.change (env : Environment) (event : Event) : Change :=
  match event.step with
  | .new path settings => .replace ⟨path, settings⟩
  | .load path => .ofLoaded (SettingsStore.load event.disk path)
  | .loadOrDefault path => .ofLoaded (SettingsStore.loadOrDefault event.disk path)
  | .openUsual => .ofLoaded (SettingsStore.openUsual env event.disk)
  | .setOpenApp value => .setOpenApp value
  | .setSuppressUrl value => .setSuppressUrl value
  | .usualPath | .save | .resolve _ | .provide _ _ | .remove _ => .keep

/-- The store in memory as the events of a run tell it. -/
def snapshot (env : Environment) (session : Session) (steps : List Step) : Option SettingsStore :=
  (session.events env steps).foldl (fun store? event => (event.change env).apply store?)
    session.store?

/-- The steps that are there to change the disk. -/
def Step.changesDisk : Step → Bool
  | .save | .provide _ _ | .remove _ => true
  | _ => false

/-! ## One step -/

section

variable (env : Environment) (session : Session)

theorem replace_store (loaded : Except ConfigError SettingsStore) :
    (session.replace loaded).2.store? = (Change.ofLoaded loaded).apply session.store? := by
  cases loaded <;> rfl

theorem replace_disk (loaded : Except ConfigError SettingsStore) :
    (session.replace loaded).2.disk = session.disk := by
  cases loaded <;> rfl

theorem modify_store (change : Settings → Settings) :
    (session.modify change).2.store? =
      session.store?.map fun store => { store with settings := change store.settings } := by
  unfold modify
  cases h : session.store? <;> simp [h]

theorem modify_disk (change : Settings → Settings) :
    (session.modify change).2.disk = session.disk := by
  unfold modify
  cases session.store? <;> rfl

theorem save_store : session.save.2.store? = session.store? := by
  unfold save
  cases h : session.store? with
  | none => exact h
  | some store =>
    dsimp only
    rcases store.save session.disk with ⟨_ | _, _⟩ <;> rfl

theorem remove_store (path : FilePath) : (session.remove path).2.store? = session.store? := by
  unfold remove
  cases session.disk.remove path <;> rfl

/-- One step changes the store in memory as its event says. -/
theorem step_store (step : Step) :
    (session.step env step).2.store? =
      (Event.change env ⟨step, session.disk⟩).apply session.store? := by
  cases step with
  | new path settings => rfl
  | load path => exact session.replace_store _
  | loadOrDefault path => exact session.replace_store _
  | openUsual => exact session.replace_store _
  | setOpenApp value => exact session.modify_store _
  | setSuppressUrl value => exact session.modify_store _
  | save => exact session.save_store
  | remove path => exact session.remove_store path
  | usualPath | resolve payload | provide path content? => rfl

/-- One step leaves the disk as it is, unless it is there to change it. -/
theorem step_disk {step : Step} (h : step.changesDisk = false) :
    (session.step env step).2.disk = session.disk := by
  cases step with
  | new path settings => rfl
  | load path => exact session.replace_disk _
  | loadOrDefault path => exact session.replace_disk _
  | openUsual => exact session.replace_disk _
  | setOpenApp value => exact session.modify_disk _
  | setSuppressUrl value => exact session.modify_disk _
  | usualPath | resolve payload => rfl
  | save | provide path content? | remove path => cases h

/-- A decision follows the store in memory, and leaves all as it is. -/
theorem step_resolve (payload : String) :
    session.step env (.resolve payload) =
      (match session.store?, Payload.parse payload with
        | none, _ => .noStore
        | some _, .error e => .malformedPayload e
        | some store, .ok payload => .action (NotificationTap.resolve store.settings payload),
        session) := by
  simp only [step, resolve]
  cases session.store? <;> cases Payload.parse payload <;> rfl

end

/-! ## Whole runs -/

theorem run_store (env : Environment) (session : Session) (steps : List Step) :
    (session.run env steps).store? = session.snapshot env steps := by
  induction steps generalizing session with
  | nil => rfl
  | cons step steps ih =>
    rw [run, ih]
    simp only [snapshot, events, List.foldl_cons, step_store]

/-- After any run, the store in memory is the one that the events of the run tell, and the next step
changes it as its own event says. A decision follows that store, whatever is on the disk, and
changes nothing. A step that is not there to change the disk leaves it as it is. -/
theorem run_snapshot (env : Environment) (start : Session) (steps : List Step) :
    let session := start.run env steps
    let snapshot := start.snapshot env steps
    session.store? = snapshot ∧
    (∀ step, (session.step env step).2.store? =
      (Event.change env ⟨step, session.disk⟩).apply snapshot) ∧
    (∀ payload, session.step env (.resolve payload) =
      (match snapshot, Payload.parse payload with
        | none, _ => .noStore
        | some _, .error e => .malformedPayload e
        | some store, .ok payload => .action (NotificationTap.resolve store.settings payload),
        session)) ∧
    ∀ step, step.changesDisk = false → (session.step env step).2.disk = session.disk := by
  intro session snapshot
  have hstore : session.store? = snapshot := run_store env start steps
  rw [← hstore]
  exact ⟨rfl, fun step => step_store env session step,
    fun payload => step_resolve env session payload, fun step h => step_disk env session h⟩

/-- A program saves its settings, and something else spoils the file. Loading it fails. -/
def sampleSteps : List Step :=
  [.new ⟨"open.toml"⟩ ⟨false, false⟩, .save, .provide ⟨"open.toml"⟩ (some "?".toUTF8),
    .load ⟨"open.toml"⟩, .setSuppressUrl true]

/-- A notification with a launch URL. -/
def linkPayload : Payload :=
  ⟨[("custom", .object [("u", .string "https://example.com")])]⟩

/-- Decisions still follow what is in memory, with the one setting that was changed since. -/
theorem run_snapshot_spoiled :
    (run {} {} sampleSteps).store? = some ⟨⟨"open.toml"⟩, ⟨false, true⟩⟩ ∧
    (run {} {} sampleSteps).step {} (.resolve linkPayload.text) =
      (.action ⟨false, none⟩, run {} {} sampleSteps) ∧
    ((run {} {} sampleSteps).step {} (.load ⟨"open.toml"⟩)).2.disk =
      (run {} {} sampleSteps).disk := by
  have hsnapshot : snapshot {} {} sampleSteps = some ⟨⟨"open.toml"⟩, ⟨false, true⟩⟩ := by
    decide +kernel
  have hparse : Payload.parse linkPayload.text = .ok linkPayload :=
    Payload.parse_text (.object (by decide) (List.forall_mem_cons.mpr
      ⟨.object (by decide) (List.forall_mem_cons.mpr ⟨.string _, List.forall_mem_nil _⟩),
        List.forall_mem_nil _⟩))
  have h := run_snapshot {} {} sampleSteps
  dsimp only at h
  rw [hsnapshot] at h
  obtain ⟨hstore, -, hresolve, hdisk⟩ := h
  refine ⟨hstore, ?_, hdisk (.load _) rfl⟩
  rw [hresolve, hparse]
  rfl

end NotificationTap.Session
