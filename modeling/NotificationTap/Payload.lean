import NotificationTap.Json.Reader
import NotificationTap.Json.Text
import NotificationTap.LaunchUrl

/-!
# Notification payloads

A notification arrives as an untyped JSON object. Its member `custom` holds what the sender adds: a
JSON object, or a string with the text of one.

* `Payload.parse`: a payload from its text.
* `CustomData.parse`: the mapping that a `custom` member stands for.
* `Payload.customData`: the mapping of a payload; empty if there is none or it is malformed, since
  a bad `custom` member must not keep a tap from being handled.
* `CustomData.launchUrl?`, `notificationId?`, `additionalData?`, `isInAppPreview`,
  `inAppPreviewId?`: what the mapping says.
-/

namespace NotificationTap

/-- The members of a notification. -/
structure Payload where
  /-- The members, sorted by key. -/
  members : Json.Members

/-- The members of a notification's `custom` mapping. -/
structure CustomData where
  /-- The members, sorted by key. -/
  members : Json.Members

instance : BEq Payload := ⟨fun p q => Json.beqMembers p.members q.members⟩

instance : BEq CustomData := ⟨fun p q => Json.beqMembers p.members q.members⟩

/-! ## Keys -/

/-- The payload's key of the custom mapping. -/
def customKey : String := "custom"

/-- The custom mapping's key of the launch URL. -/
def launchUrlKey : String := "u"

/-- The custom mapping's key of the notification's id. -/
def notificationIdKey : String := "i"

/-- The custom mapping's key of the additional data. -/
def additionalDataKey : String := "a"

/-- The additional data's key that marks the preview of an in-app message. -/
def inAppPreviewKey : String := "os_in_app_message_preview_id"

/-! ## Reading -/

/-- A payload from its text, which has to be a JSON object. -/
def Payload.parse (text : String) : Except Json.Error Payload :=
  (Json.parseObject text).map Payload.mk

/-- The JSON text of a payload. -/
def Payload.text (payload : Payload) : String := (Json.object payload.members).compact

/-- A type that no custom mapping has. -/
inductive UnsupportedType where
  | null
  | bool
  | number
  | array
deriving DecidableEq, Repr

/-- Why a `custom` member stands for no mapping. -/
inductive CustomDataError where
  /-- It is a string, and not the text of a JSON object. -/
  | malformed (error : Json.Error)
  /-- It is neither a string nor an object. -/
  | unsupported (type : UnsupportedType)
deriving DecidableEq, Repr

/-- The name of a type. -/
def UnsupportedType.name : UnsupportedType → String
  | .null => "null"
  | .bool => "bool"
  | .number => "number"
  | .array => "array"

/-- The words of an error. -/
def CustomDataError.message : CustomDataError → String
  | .malformed error => "custom field is not a JSON object: " ++ error.message
  | .unsupported type => "custom field has unsupported type " ++ type.name

/-- The mapping that a `custom` member stands for. -/
def CustomData.parse : Json → Except CustomDataError CustomData
  | .string text =>
    match Json.parseObject text with
    | .ok members => .ok ⟨members⟩
    | .error e => .error (.malformed e)
  | .object members => .ok ⟨members⟩
  | .null => .error (.unsupported .null)
  | .bool _ => .error (.unsupported .bool)
  | .number _ => .error (.unsupported .number)
  | .array _ => .error (.unsupported .array)

/-- The custom mapping of a payload; empty if there is none or it is malformed. -/
def Payload.customData (payload : Payload) : CustomData :=
  match payload.members.lookup customKey with
  | none => ⟨[]⟩
  | some custom =>
    match CustomData.parse custom with
    | .ok data => data
    | .error _ => ⟨[]⟩

/-! ## Content of the mapping -/

namespace CustomData

/-- Whether the mapping has no members. -/
def isEmpty (data : CustomData) : Bool := data.members.isEmpty

/-- The URL to open, if there is a string for one that is not all padding. -/
def launchUrl? (data : CustomData) : Option LaunchUrl :=
  (data.members.lookup launchUrlKey).bind Json.string? |>.bind LaunchUrl.parse?

/-- The notification's id, if it is a string. -/
def notificationId? (data : CustomData) : Option String :=
  (data.members.lookup notificationIdKey).bind Json.string?

/-- The additional data, if they are an object. -/
def additionalData? (data : CustomData) : Option Json.Members :=
  (data.members.lookup additionalDataKey).bind Json.object?

/-- The mark of an in-app message's preview, whatever its value. -/
def inAppPreview? (data : CustomData) : Option Json :=
  data.additionalData?.bind (List.lookup inAppPreviewKey)

/-- Whether the notification previews an in-app message. -/
def isInAppPreview (data : CustomData) : Bool := data.inAppPreview?.isSome

/-- The id of the previewed message, if it is a string. -/
def inAppPreviewId? (data : CustomData) : Option String := data.inAppPreview?.bind Json.string?

end CustomData

end NotificationTap
