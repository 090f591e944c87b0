import NotificationTap.Json.Record
import NotificationTap.Json.Text
import NotificationTap.OpenAction

/-!
# JSON forms of decisions and settings

Each type has `toJson`, the value that it is written as, and `ofJsonText`, which reads it from a
whole text. Records are written with their members in the order of the fields here.

* `LaunchUrl`: a string, taken as it is.
* `BrowserKind`: its name as a string, or as the one key of an object whose member is null.
* `BrowserIntent`, `OpenAction`, `Settings`: records.
-/

namespace NotificationTap

open Json

/-! ## Launch URLs -/

/-- A URL as a string. -/
def LaunchUrl.toJson (url : LaunchUrl) : Json := .string url.text

/-- A URL from a string, padding included. -/
def LaunchUrl.read (text : List Char) : Read LaunchUrl := (readString text).map LaunchUrl.mk

/-- A URL from a whole text. -/
def LaunchUrl.ofJsonText (text : String) : Except Json.Error LaunchUrl :=
  parseWith LaunchUrl.read text

/-! ## Browser intents -/

/-- The name of a kind in JSON. -/
def BrowserKind.name : BrowserKind → String
  | .view => "view"
  | .appBrowser => "app_browser"

/-- A kind as a string. -/
def BrowserKind.toJson (kind : BrowserKind) : Json := .string kind.name

/-- The name of a kind. -/
def BrowserKind.readName (text : List Char) : Read BrowserKind :=
  (readStringFor .variantName text).andThen fun name rest =>
    if name = BrowserKind.view.name then .done .view rest
    else if name = BrowserKind.appBrowser.name then .done .appBrowser rest
    else failAt (.unknownVariant name [BrowserKind.view.name, BrowserKind.appBrowser.name]) rest

/-- The key of an object that stands for a kind. -/
def BrowserKind.readKey (text : List Char) : Read BrowserKind :=
  match skipBlanks text with
  | [] => failNext .eofObject []
  | '"' :: rest => BrowserKind.readName ('"' :: rest)
  | '}' :: rest => failNext .expectedValue ('}' :: rest)
  | rest => failNext .keyNotString rest

/-- A kind, from its name or from an object with its name as the one key. -/
def BrowserKind.read (text : List Char) : Read BrowserKind :=
  match skipBlanks text with
  | [] => failNext .eofValue []
  | '"' :: rest => BrowserKind.readName ('"' :: rest)
  | '{' :: rest =>
    (BrowserKind.readKey rest).andThen fun kind rest =>
      (readColon rest).andThen fun _ rest =>
        (readNull rest).andThen fun _ rest =>
          match skipBlanks rest with
          | [] => failAt .eofObject []
          | '}' :: rest => .done kind rest
          | rest => failAt .expectedValue rest
  | rest => failNext .expectedValue rest

/-- A kind from a whole text. -/
def BrowserKind.ofJsonText (text : String) : Except Json.Error BrowserKind :=
  parseWith BrowserKind.read text

/-- An intent as an object. -/
def BrowserIntent.toJson (intent : BrowserIntent) : Json :=
  .object [("kind", intent.kind.toJson), ("url", .string intent.url)]

/-- An intent from a record with both fields. -/
def BrowserIntent.read (text : List Char) : Read BrowserIntent :=
  (readRecord "BrowserIntent" { name := "kind", read := BrowserKind.read }
    { name := "url", read := readString } text).map fun (kind, url) => ⟨kind, url⟩

/-- An intent from a whole text. -/
def BrowserIntent.ofJsonText (text : String) : Except Json.Error BrowserIntent :=
  parseWith BrowserIntent.read text

/-! ## Decisions -/

/-- A decision as an object. -/
def OpenAction.toJson (action : OpenAction) : Json :=
  .object [("should_open_app", .bool action.opensApp),
    ("browser_url", (action.url?.map LaunchUrl.toJson).getD .null)]

/-- A decision from a record; in an object, the URL may be absent. -/
def OpenAction.read (text : List Char) : Read OpenAction :=
  (readRecord "OpenAction" { name := "should_open_app", read := readBool }
    { name := "browser_url", read := readNullable LaunchUrl.read, absent? := some none } text).map
      fun (opensApp, url?) => ⟨opensApp, url?⟩

/-- A decision from a whole text. -/
def OpenAction.ofJsonText (text : String) : Except Json.Error OpenAction :=
  parseWith OpenAction.read text

/-! ## Settings -/

/-- The key of `Settings.openApp` in JSON and in settings files. -/
def openAppKey : String := "open_app_on_notification_click"

/-- The key of `Settings.suppressUrl` in JSON and in settings files. -/
def suppressUrlKey : String := "suppress_launch_url"

/-- Settings as an object. -/
def Settings.toJson (settings : Settings) : Json :=
  .object [(openAppKey, .bool settings.openApp), (suppressUrlKey, .bool settings.suppressUrl)]

/-- Settings from a record; a field that is absent has its default. -/
def Settings.read (text : List Char) : Read Settings :=
  let field (name : String) (default : Bool) : Json.Field Bool :=
    { name := name, read := readBool, absent? := some default, cut? := some default }
  (readRecord "OpenSettings" (field openAppKey Settings.default.openApp)
    (field suppressUrlKey Settings.default.suppressUrl) text).map
      fun (openApp, suppressUrl) => ⟨openApp, suppressUrl⟩

/-- Settings from a whole text. -/
def Settings.ofJsonText (text : String) : Except Json.Error Settings := parseWith Settings.read text

end NotificationTap
