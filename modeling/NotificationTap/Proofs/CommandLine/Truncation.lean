import Mathlib.Data.List.Basic
import NotificationTap.Proofs.CommandLine.PayloadSource
import NotificationTap.Proofs.CommandLine.Stages
import NotificationTap.Proofs.Json.Continuation
import NotificationTap.Proofs.Transport

/-!
# Texts that are cut short

The text of an object ends with its closing brace, or with blanks behind it. Cut short before that
brace, it is no text of an object any more, wherever the cut falls.

* `parseObject_cut`: an object's text that is cut short is refused.
* `run_of_malformed`: a run on a payload that is refused fails, says why, and changes nothing.
* `CustomData.parse_of_malformed`, `resolve_of_empty`: a custom string that is refused stands for no
  mapping, and a payload without one is decided on by the settings alone.
* `truncation_noticed`: so nothing is opened by a part of a payload or of a mapping.
-/

namespace NotificationTap

open Json

/-! ## Objects -/

/-- An object's text that ends with its closing brace is refused if it is cut short: what was read
of the whole text goes on with the brace, and not just with blanks. -/
theorem Json.parseObject_cut {whole part : String} {members : Members}
    (haccepted : parseObject whole = .ok members) (hends : whole.toList.getLast? = some '}')
    (hpart : part.toList <+: whole.toList) (hne : part ≠ whole) :
    ∃ e, parseObject part = .error e := by
  cases hparse : parseObject part with
  | error e => exact ⟨e, rfl⟩
  | ok others =>
    obtain ⟨more, hmore⟩ := hpart
    have hcut : more ≠ [] := by
      rintro rfl
      rw [List.append_nil] at hmore
      exact hne (String.toList_inj.mp hmore)
    have hlast : '}' ∈ more := by
      rw [← hmore, List.getLast?_append_of_ne_nil _ hcut] at hends
      exact List.mem_of_getLast? hends
    obtain ⟨-, hblank⟩ := parseObject_append hparse haccepted hmore.symm
    exact absurd (hblank _ hlast) (by decide)

/-! ## Mappings -/

variable {payload : Payload} {part : String} {e : Json.Error}

/-- A string that is refused stands for no mapping. -/
theorem CustomData.parse_of_malformed (h : parseObject part = .error e) :
    CustomData.parse (.string part) = .error (.malformed e) := by
  rw [CustomData.parse, h]

theorem Payload.customData_of_malformed (h : parseObject part = .error e)
    (hcustom : payload.members.lookup customKey = some (.string part)) :
    payload.customData = ⟨[]⟩ := by
  rw [Payload.customData, hcustom]
  simp only [CustomData.parse_of_malformed h]

theorem url?_of_empty (h : payload.customData = ⟨[]⟩) (detector : PreviewDetector)
    (settings : Settings) : (resolveWith detector settings payload).url? = none := by
  have hnone : (CustomData.mk []).launchUrl? = none := rfl
  rw [resolveWith, h, hnone, ite_self]

/-- A payload without a mapping is decided on by the setting for the app alone. -/
theorem resolve_of_empty (h : payload.customData = ⟨[]⟩) (settings : Settings) :
    resolve settings payload = ⟨settings.openApp, none⟩ := by
  have hpreview : inAppPreview payload = false := by
    rw [inAppPreview, h]
    rfl
  have hurl : (resolve settings payload).url? = none := url?_of_empty h inAppPreview settings
  have happ : (resolve settings payload).opensApp = settings.openApp := by
    rw [resolve, resolveWith, hpreview, Bool.false_or]
  rw [← hurl, ← happ]

/-! ## Runs -/

namespace CommandLine

variable {env : Environment} {arguments : List String} {stdin : ByteArray} {disk : Disk}
  {config? payload? : Option FilePath} {overrides : Overrides} {command : Command}

/-- A run on a payload that is refused says so, and changes nothing. -/
theorem run_of_malformed
    (haccepted : Invocation.ofArguments? arguments = some ⟨config?, command⟩)
    (hcommand : command = .resolve payload? overrides ∨ command = .dispatch payload? overrides)
    {store : SettingsStore}
    (hload : SettingsStore.loadOrDefault disk (config?.getD env.settingsPath) = .ok store)
    (hbytes : payloadBytes disk stdin payload? = .ok part.toUTF8)
    (hparse : Payload.parse part = .error e) :
    run env arguments stdin disk = (.failed (.malformedPayload e), disk) := by
  have hread : readPayload disk stdin payload? = .error (.malformedPayload e) :=
    readPayload_eq_error.mpr (.inr ⟨part, hbytes, e, hparse, rfl⟩)
  rw [run_of_loaded haccepted hload]
  rcases hcommand with rfl | rfl
  · rw [execute, hread]
    rfl
  · rw [execute, hread]
    rfl

/-- Take a payload's text that ends with a closing brace, and cut it short anywhere. The part is
refused. A run that is to show the decision on it, or to carry that out, fails with a message and
prints nothing, if it gets to the payload at all. As the custom string of another payload, whatever
else that holds, the part stands for no mapping: no URL is opened, and the app only by the setting
for it. -/
theorem truncation_noticed {whole part : String} {payload : Payload}
    (haccepted : Payload.parse whole = .ok payload) (hends : whole.toList.getLast? = some '}')
    (hpart : part.toList <+: whole.toList) (hne : part ≠ whole) :
    ∃ e, Payload.parse part = .error e ∧
      (∀ env arguments stdin disk config? payload? overrides command,
        Invocation.ofArguments? arguments = some ⟨config?, command⟩ →
        command = .resolve payload? overrides ∨ command = .dispatch payload? overrides →
        (∃ store, SettingsStore.loadOrDefault disk (config?.getD env.settingsPath) = .ok store) →
        payloadBytes disk stdin payload? = .ok part.toUTF8 →
        ∃ outcome, run env arguments stdin disk = (outcome, disk) ∧
          outcome.exitCode = 1 ∧ outcome.output = "" ∧
          outcome.chain = ["payload must be a JSON object", e.message]) ∧
      CustomData.parse (.string part) = .error (.malformed e) ∧
      ∀ other : Payload, other.members.lookup customKey = some (.string part) →
        other.customData = ⟨[]⟩ ∧
        (∀ detector settings, (resolveWith detector settings other).url? = none) ∧
        ∀ settings, resolve settings other = ⟨settings.openApp, none⟩ := by
  obtain ⟨members, hmembers, -⟩ := Except.map_eq_ok.mp haccepted
  obtain ⟨e, hcut⟩ := parseObject_cut hmembers hends hpart hne
  have hparse : Payload.parse part = .error e := by
    rw [Payload.parse, hcut]
    rfl
  refine ⟨e, hparse, ?_, CustomData.parse_of_malformed hcut, fun other hcustom => ?_⟩
  · rintro env arguments stdin disk config? payload? overrides command hinvocation hcommand
      ⟨store, hload⟩ hbytes
    exact ⟨_, run_of_malformed hinvocation hcommand hload hbytes hparse, rfl, rfl, rfl⟩
  · have hempty := Payload.customData_of_malformed hcut hcustom
    exact ⟨hempty, url?_of_empty hempty, resolve_of_empty hempty⟩

/-- A notification with a URL. -/
def linkPayload : Payload :=
  .withCustom [("badge", .number (.integer 12))] (.object [("u", .string "https://a.example/é\"😀")])

/-- The front of its text, up to an escape in the URL. -/
def linkPart : String := "\x7b\"badge\":12,\"custom\":\x7b\"u\":\"https://a.example/é\\"

/-- A disk with this part in a file. -/
def linkPartDisk : Disk where
  entries := [(["p.json"], .file linkPart.toUTF8)]

/-- A part of the text, as a payload on the standard input, as one in a file and as a mapping. -/
theorem truncation_noticed_escape :
    (∃ outcome, run {} ["open", "--open-app=true"] linkPart.toUTF8 {} = (outcome, {}) ∧
      outcome.exitCode = 1 ∧ outcome.output = "") ∧
    (∃ outcome, run {} ["resolve", "p.json"] .empty linkPartDisk = (outcome, linkPartDisk) ∧
      outcome.exitCode = 1 ∧ outcome.output = "") ∧
    ∀ rest settings, resolve settings (.withCustom rest (.string linkPart)) =
      ⟨settings.openApp, none⟩ := by
  have haccepted : Payload.parse linkPayload.text = .ok linkPayload :=
    Payload.parse_text (.object (by decide) (List.forall_mem_cons.mpr ⟨.integer (by decide),
      List.forall_mem_cons.mpr ⟨.object (by decide) (List.forall_mem_cons.mpr ⟨.string _,
        List.forall_mem_nil _⟩), List.forall_mem_nil _⟩⟩))
  have hpart : linkPart.toList <+: linkPayload.text.toList := by decide +kernel
  obtain ⟨e, -, hrun, -, hmapping⟩ :=
    truncation_noticed haccepted (by decide +kernel) hpart (by decide +kernel)
  have hinvocation : Invocation.ofArguments? ["open", "--open-app=true"] =
      some ⟨none, .dispatch none ⟨some true, none⟩⟩ := by
    decide +kernel
  have hload : SettingsStore.loadOrDefault {} (Environment.settingsPath {}) =
      .ok ⟨Environment.settingsPath {}, Settings.default⟩ :=
    Except.toOption_eq_some.mp (by decide +kernel)
  have hinvocation' : Invocation.ofArguments? ["resolve", "p.json"] =
      some ⟨none, .resolve (some ⟨"p.json"⟩) ⟨none, none⟩⟩ := by
    decide +kernel
  have hload' : SettingsStore.loadOrDefault linkPartDisk (Environment.settingsPath {}) =
      .ok ⟨Environment.settingsPath {}, Settings.default⟩ :=
    Except.toOption_eq_some.mp (by decide +kernel)
  have hfile : linkPartDisk.status ⟨"p.json"⟩ = .ok (.file linkPart.toUTF8) :=
    Except.toOption_eq_some.mp (by decide +kernel)
  have hbytes := payloadBytes_of_file (by decide +kernel) hfile .empty
  obtain ⟨outcome, hend, hcode, houtput, -⟩ :=
    hrun {} _ linkPart.toUTF8 {} _ _ _ _ hinvocation (.inr rfl) ⟨_, hload⟩ rfl
  obtain ⟨outcome', hend', hcode', houtput', -⟩ :=
    hrun {} _ .empty linkPartDisk _ _ _ _ hinvocation' (.inl rfl) ⟨_, hload'⟩ hbytes
  exact ⟨⟨outcome, hend, hcode, houtput⟩, ⟨outcome', hend', hcode', houtput'⟩, fun rest settings =>
    (hmapping _ (lookup_insert_self _ _ _)).2.2 settings⟩

end CommandLine

end NotificationTap
