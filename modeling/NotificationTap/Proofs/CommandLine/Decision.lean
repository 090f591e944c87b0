import NotificationTap.Proofs.CommandLine.PayloadSource
import NotificationTap.Proofs.CommandLine.Stages
import NotificationTap.Proofs.Json.Record
import NotificationTap.Proofs.Transport

/-!
# Decisions that are printed

* `OpenAction.reads_toJson`: a decision is read back from the lines that it is written on.
* `run_resolve_exitCode`, `run_resolve_output`: when a run that shows a decision succeeds, and what
  it prints then.
* `run_resolve_faithful`: such a run succeeds exactly if there are settings and a payload, and what
  it prints reads back as the decision on them.
-/

namespace NotificationTap

open Json

/-! ## Reading decisions back -/

theorem LaunchUrl.reads_toJson (url : LaunchUrl) (level : Nat) :
    Reads LaunchUrl.read (indentedChars level url.toJson) url :=
  (reads_readString url.text).map LaunchUrl.mk

theorem LaunchUrl.reads_nullable (url? : Option LaunchUrl) (level : Nat) :
    Reads (readNullable LaunchUrl.read)
      (indentedChars level ((url?.map LaunchUrl.toJson).getD .null)) url? := by
  cases url? with
  | none => exact reads_readNullable_null LaunchUrl.read
  | some url => exact (url.reads_toJson level).nullable rfl (by decide) (by decide)

/-- A decision is read back from the lines that it is written on. -/
theorem OpenAction.reads_toJson (action : OpenAction) (level : Nat) :
    Reads OpenAction.read (indentedChars level action.toJson) action := by
  let opensApp : Json.Field Bool := { name := "should_open_app", read := readBool }
  let url? : Json.Field (Option LaunchUrl) :=
    { name := "browser_url", read := readNullable LaunchUrl.read, absent? := some none }
  have hopens : Reads readBool (indentedChars (level + 1) (.bool action.opensApp)) action.opensApp :=
    reads_readBool action.opensApp
  have hurl := LaunchUrl.reads_nullable action.url? (level + 1)
  have hrecord := Reads.record (f := opensApp) (g := url?) "OpenAction" (by decide) hopens hurl
  exact hrecord.map fun fields => OpenAction.mk fields.1 fields.2

namespace CommandLine

/-- A decision is read back from the whole of the text that is printed for it. -/
theorem ofJsonText_actionText (action : OpenAction) :
    OpenAction.ofJsonText (actionText action) = .ok action := by
  have htext : actionText action = String.ofList (indentedChars 0 action.toJson ++ ['\n']) := by
    rw [String.ofList_append]
    rfl
  rw [htext]
  exact parseWith_of_reads (action.reads_toJson 0) (by simp [Blank, isBlank])

/-! ## Runs that show a decision -/

variable {env : Environment} {arguments : List String} {stdin : ByteArray} {disk : Disk}
  {config? payload? : Option FilePath} {overrides : Overrides} {store : SettingsStore}

theorem run_resolve
    (haccepted : Invocation.ofArguments? arguments = some ⟨config?, .resolve payload? overrides⟩)
    (hload : SettingsStore.loadOrDefault disk (config?.getD env.settingsPath) = .ok store) :
    (run env arguments stdin disk).1 = .ofResult ((readPayload disk stdin payload?).map
      fun payload => actionText (resolve (overrides.apply store.settings) payload)) := by
  rw [run_of_loaded haccepted hload, execute]

theorem run_resolve_exitCode
    (haccepted : Invocation.ofArguments? arguments = some ⟨config?, .resolve payload? overrides⟩) :
    (run env arguments stdin disk).1.exitCode = 0 ↔
      (∃ store, SettingsStore.loadOrDefault disk (config?.getD env.settingsPath) = .ok store) ∧
      ∃ text payload, payloadBytes disk stdin payload? = .ok text.toUTF8 ∧
        Payload.parse text = .ok payload := by
  cases hload : SettingsStore.loadOrDefault disk (config?.getD env.settingsPath) with
  | error e =>
    have hrun : run env arguments stdin disk = (.failed (.settings config? e), disk) :=
      run_of_broken haccepted hload
    simp [hrun, Outcome.exitCode]
  | ok store =>
    rw [exitCode_eq_zero, run_resolve haccepted hload]
    simp only [ofResult_eq_done, Except.map_eq_ok, readPayload_eq_ok]
    constructor
    · rintro ⟨_, payload, ⟨text, hbytes, hparse⟩, -⟩
      exact ⟨⟨store, rfl⟩, text, payload, hbytes, hparse⟩
    · rintro ⟨-, text, payload, hbytes, hparse⟩
      exact ⟨_, payload, ⟨text, hbytes, hparse⟩, rfl⟩

theorem run_resolve_output
    (haccepted : Invocation.ofArguments? arguments = some ⟨config?, .resolve payload? overrides⟩)
    (hload : SettingsStore.loadOrDefault disk (config?.getD env.settingsPath) = .ok store)
    {text : String} {payload : Payload} (hbytes : payloadBytes disk stdin payload? = .ok text.toUTF8)
    (hparse : Payload.parse text = .ok payload) :
    (run env arguments stdin disk).1.output =
      actionText (resolve (overrides.apply store.settings) payload) := by
  have hread := readPayload_eq_ok.mpr ⟨text, hbytes, hparse⟩
  rw [run_resolve haccepted hload, hread]
  rfl

/-- A run that is to show a decision succeeds exactly if the settings are loaded and the payload is
the text of a JSON object, from its file or from the standard input. What it prints then reads back
as the decision on that payload, by the settings of the file or the default ones, with those
replaced that the command line gives. -/
theorem run_resolve_faithful (env : Environment) (stdin : ByteArray) (disk : Disk)
    (haccepted : Invocation.ofArguments? arguments = some ⟨config?, .resolve payload? overrides⟩) :
    let outcome := (run env arguments stdin disk).1
    (outcome.exitCode = 0 ↔
      (∃ store, SettingsStore.loadOrDefault disk (config?.getD env.settingsPath) = .ok store) ∧
      ∃ text payload, payloadBytes disk stdin payload? = .ok text.toUTF8 ∧
        Payload.parse text = .ok payload) ∧
    ∀ store text payload,
      SettingsStore.loadOrDefault disk (config?.getD env.settingsPath) = .ok store →
      payloadBytes disk stdin payload? = .ok text.toUTF8 → Payload.parse text = .ok payload →
      OpenAction.ofJsonText outcome.output =
        .ok (resolve (overrides.apply store.settings) payload) := by
  intro outcome
  refine ⟨run_resolve_exitCode haccepted, fun store text payload hload hbytes hparse => ?_⟩
  have houtput : outcome.output = _ := run_resolve_output haccepted hload hbytes hparse
  rw [houtput, ofJsonText_actionText]

/-- A URL with quotation marks, a backslash and a character outside the basic plane. -/
def quotedUrl : String := "https://example.com/?q=\"é😀\"\\n"

/-- A notification that carries the text of a mapping with this URL, and padding around it. -/
def quotedPayload : Payload :=
  .withCustom [] (.string (compact (.object [("u", .string ("\t" ++ quotedUrl ++ " "))])))

/-- A disk with this notification and a settings file that keeps URLs from being opened. -/
def suppressingDisk : Disk where
  entries := [(["open.toml"], .file "suppress_launch_url = true\n".toUTF8),
    (["p.json"], .file quotedPayload.text.toUTF8)]

/-- The command line has URLs opened after all, and the URL is read back from what is printed. -/
theorem run_resolve_faithful_quoted :
    OpenAction.ofJsonText (run {} ["--config=open.toml", "resolve", "p.json",
      "--suppress-launch-url=false"] .empty suppressingDisk).1.output =
        .ok ⟨true, some ⟨quotedUrl⟩⟩ := by
  have hcanonical : Canonical 126 (.object [("u", .string ("\t" ++ quotedUrl ++ " "))]) :=
    .object (by decide) (List.forall_mem_cons.mpr ⟨.string _, List.forall_mem_nil _⟩)
  have hdata := Payload.customData_withCustom [] (CustomData.parse_compact
    (hcanonical.mono (by decide)))
  have hparse : Payload.parse quotedPayload.text = .ok quotedPayload :=
    Payload.parse_text (.object (by decide)
      (List.forall_mem_cons.mpr ⟨.string _, List.forall_mem_nil _⟩))
  have haccepted : Invocation.ofArguments?
      ["--config=open.toml", "resolve", "p.json", "--suppress-launch-url=false"] =
        some ⟨some ⟨"open.toml"⟩, .resolve (some ⟨"p.json"⟩) ⟨none, some false⟩⟩ := by
    decide +kernel
  have hload : SettingsStore.loadOrDefault suppressingDisk ⟨"open.toml"⟩ =
      .ok ⟨⟨"open.toml"⟩, ⟨true, true⟩⟩ :=
    Except.toOption_eq_some.mp (by decide +kernel)
  have hfile : suppressingDisk.status ⟨"p.json"⟩ = .ok (.file quotedPayload.text.toUTF8) :=
    Except.toOption_eq_some.mp (by decide +kernel)
  have hbytes := payloadBytes_of_file (by decide +kernel) hfile .empty
  obtain ⟨-, hdecision⟩ := run_resolve_faithful {} .empty suppressingDisk haccepted
  rw [hdecision _ quotedPayload.text quotedPayload hload hbytes hparse, resolve, resolveWith,
    inAppPreview, quotedPayload, hdata]
  rfl

end CommandLine

end NotificationTap
