import NotificationTap.Decimal.Layout
import NotificationTap.Text.Truth
import NotificationTap.Toml.Document
import NotificationTap.Wire

/-!
# The text of a settings file

A settings file is a TOML document with two known keys. Other keys are for other versions of the
program and make no difference.

* `Settings.fileText`: the text that settings are saved as.
* `Settings.ofTable`: the settings of a document.
* `Settings.ofFileText`: the settings of a text.
-/

namespace NotificationTap

/-! ## Writing -/

/-- A line that gives a key a truth value. -/
def settingLine (key : String) (value : Bool) : String :=
  key ++ " = " ++ Text.truthName value ++ "\n"

/-- The text that settings are saved as. -/
def Settings.fileText (settings : Settings) : String :=
  settingLine openAppKey settings.openApp ++ settingLine suppressUrlKey settings.suppressUrl

/-! ## Reading -/

/-- What a value is called when it stands in place of a truth value. -/
def Toml.Value.found : Toml.Value → Found
  | .string value => .string value
  | .integer value => .integer value
  | .double value => .floating (String.ofList (plainText value))
  | .boolean value => .boolean value
  | .array _ => .sequence
  | .tables _ => .sequence
  | .table _ _ => .map
  | .dateTime => .map

/-- A value that has to be a truth value. -/
def Toml.Value.toBoolean : Toml.Value → Except Mismatch Bool
  | .boolean value => .ok value
  | value => .error ⟨value.found, .boolean⟩

/-- Updates settings with the entries of a document, in their order. -/
def Settings.update (settings : Settings) : Toml.Table → Except Mismatch Settings
  | [] => .ok settings
  | (key, value) :: rest =>
    if key = openAppKey then
      match value.toBoolean with
      | .error e => .error e
      | .ok openApp => { settings with openApp }.update rest
    else if key = suppressUrlKey then
      match value.toBoolean with
      | .error e => .error e
      | .ok suppressUrl => { settings with suppressUrl }.update rest
    else settings.update rest

/-- The settings of a document; a key that is absent leaves the default. -/
def Settings.ofTable (table : Toml.Table) : Except Mismatch Settings :=
  Settings.default.update table

/-- What is wrong with the text of a settings file. -/
inductive SettingsFault where
  /-- It is not a TOML document. -/
  | notToml
  /-- A known key has a value of the wrong type. -/
  | mismatch (mismatch : Mismatch)
deriving DecidableEq, Repr

/-- The settings of a text. -/
def Settings.ofFileText (text : String) : Except SettingsFault Settings :=
  match Toml.parse? text with
  | none => .error .notToml
  | some table => (Settings.ofTable table).mapError .mismatch

end NotificationTap
