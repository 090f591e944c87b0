import NotificationTap.Proofs.CommandLine.Decision
import NotificationTap.Proofs.Json.RecordForms

/-!
# Decisions, intents and settings in all their forms

Each of these is written as an object, and may be given in other forms of a record.

* `BrowserKind.reads_toJson`: the name of a browser kind is read back.
* `OpenAction.decodesForms`, `BrowserIntent.decodesForms`, `Settings.decodesForms`: each type.
* `decoded_from_every_form`: all three.
-/

namespace NotificationTap

open Json

/-! ## Browser kinds -/

theorem Json.readStringFor_quoted (wanted : Wanted) (value : String) (rest : List Char) :
    readStringFor wanted (chars (.string value) ++ rest) = .done value rest := by
  have hquote : chars (.string value) ++ rest =
      '"' :: (value.toList.flatMap escape ++ '"' :: rest) := by simp [chars, quote]
  rw [hquote, readStringFor, skipBlanks_of_not_blank (by decide)]
  simp only [unquote_quoted, Read.map_done, String.ofList_toList]

theorem BrowserKind.readName_quoted (kind : BrowserKind) (rest : List Char) :
    BrowserKind.readName (chars kind.toJson ++ rest) = .done kind rest := by
  rw [readName, toJson, readStringFor_quoted, Read.andThen_done]
  cases kind <;> rfl

/-- The name of a browser kind is read back. -/
theorem BrowserKind.reads_toJson (kind : BrowserKind) :
    Reads BrowserKind.read (chars kind.toJson) kind := by
  intro blanks rest hb
  have hname := kind.readName_quoted rest
  rw [toJson, chars, quote, List.cons_append, List.cons_append] at hname ⊢
  rw [read, skipBlanks_append_cons hb (by decide)]
  exact hname

/-! ## Each type -/

theorem LaunchUrl.canonical_nullable (url? : Option LaunchUrl) :
    Canonical 0 ((url?.map LaunchUrl.toJson).getD .null) := by
  cases url? with
  | none => exact .null
  | some url => exact .string url.text

theorem OpenAction.decodesForms (action : OpenAction) :
    DecodesForms OpenAction.ofJsonText action.toJson action := by
  let opensApp : Json.Field Bool := { name := "should_open_app", read := readBool }
  let url? : Json.Field (Option LaunchUrl) :=
    { name := "browser_url", read := readNullable LaunchUrl.read, absent? := some none }
  -- The text of a URL or of null is the same on a line of its own.
  have hurl : Reads (readNullable LaunchUrl.read)
      (chars ((action.url?.map LaunchUrl.toJson).getD .null)) action.url? := by
    have hlines := LaunchUrl.reads_nullable action.url? 0
    cases hurl? : action.url? <;> rw [hurl?] at hlines <;> exact hlines
  have hfields : ReadsFields opensApp url? (.bool action.opensApp)
      ((action.url?.map LaunchUrl.toJson).getD .null) action.opensApp action.url? :=
    ⟨by decide, reads_readBool action.opensApp, hurl⟩
  exact Json.decodesForms hfields (.bool _) (LaunchUrl.canonical_nullable action.url?) "OpenAction"
    fun fields => OpenAction.mk fields.1 fields.2

theorem BrowserIntent.decodesForms (intent : BrowserIntent) :
    DecodesForms BrowserIntent.ofJsonText intent.toJson intent := by
  let kind : Json.Field BrowserKind := { name := "kind", read := BrowserKind.read }
  let url : Json.Field String := { name := "url", read := readString }
  have hfields : ReadsFields kind url intent.kind.toJson (.string intent.url) intent.kind
      intent.url :=
    ⟨by decide, intent.kind.reads_toJson, reads_readString intent.url⟩
  exact Json.decodesForms hfields (.string _) (.string _) "BrowserIntent"
    fun fields => BrowserIntent.mk fields.1 fields.2

theorem Settings.decodesForms (settings : Settings) :
    DecodesForms Settings.ofJsonText settings.toJson settings := by
  let field (name : String) (default : Bool) : Json.Field Bool :=
    { name := name, read := readBool, absent? := some default, cut? := some default }
  have hfields : ReadsFields (field openAppKey Settings.default.openApp)
      (field suppressUrlKey Settings.default.suppressUrl) (.bool settings.openApp)
      (.bool settings.suppressUrl) settings.openApp settings.suppressUrl :=
    ⟨by decide, reads_readBool settings.openApp, reads_readBool settings.suppressUrl⟩
  exact Json.decodesForms hfields (.bool _) (.bool _) "OpenSettings"
    fun fields => Settings.mk fields.1 fields.2

/-- Decisions, browser intents and settings are decoded from their own text, from an array of their
fields in order, and from an object of their fields in any order with members of other names between
them. In such an object no field may come again. -/
theorem decoded_from_every_form :
    (∀ action : OpenAction, DecodesForms OpenAction.ofJsonText action.toJson action) ∧
    (∀ intent : BrowserIntent, DecodesForms BrowserIntent.ofJsonText intent.toJson intent) ∧
    ∀ settings : Settings, DecodesForms Settings.ofJsonText settings.toJson settings :=
  ⟨OpenAction.decodesForms, BrowserIntent.decodesForms, Settings.decodesForms⟩

/-- The fields change places, and another member stands before them. -/
example : (Settings.ofJsonText (compact (.object [("theme", .array [.null]),
    (suppressUrlKey, .bool false), (openAppKey, .bool true)]))).toOption =
      some ⟨true, false⟩ := by
  decide +kernel

end NotificationTap
