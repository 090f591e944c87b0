import NotificationTap.Text.Quoted
import NotificationTap.Text.Truth

/-!
# A value of the wrong type

Typed reading of a document stops at a value of another type than the one it needs. The message
names both: what was found, with its content if that is short enough to show, and what was needed.

* `Found`, `Wanted`: the two sides.
* `Mismatch.message`: the words for them.
-/

namespace NotificationTap

/-- What a document holds where another type was needed. -/
inductive Found where
  | null
  | boolean (value : Bool)
  | integer (value : Int)
  /-- A number with a fraction or an exponent, by the text it is shown as. -/
  | floating (text : String)
  | string (value : String)
  | sequence
  | map
deriving DecidableEq, Repr

/-- What typed reading needs. -/
inductive Wanted where
  | map
  | string
  | boolean
  | unit
  /-- The name of one case of an enumeration. -/
  | variantName
  /-- A record, by the name of its type. -/
  | record (name : String)
deriving DecidableEq, Repr

/-- A value of the wrong type. -/
structure Mismatch where
  /-- What the document holds. -/
  found : Found
  /-- What was needed. -/
  wanted : Wanted
deriving DecidableEq, Repr

/-- How a message names a value. -/
def Found.describe : Found → String
  | .null => "null"
  | .boolean value => "boolean `" ++ Text.truthName value ++ "`"
  | .integer value => "integer `" ++ toString value ++ "`"
  | .floating text => "floating point `" ++ text ++ "`"
  | .string value => "string " ++ Text.quoted value
  | .sequence => "sequence"
  | .map => "map"

/-- How a message names a need. -/
def Wanted.describe : Wanted → String
  | .map => "a map"
  | .string => "a string"
  | .boolean => "a boolean"
  | .unit => "unit"
  | .variantName => "variant identifier"
  | .record name => "struct " ++ name

/-- The words of a mismatch. -/
def Mismatch.message (mismatch : Mismatch) : String :=
  "invalid type: " ++ mismatch.found.describe ++ ", expected " ++ mismatch.wanted.describe

end NotificationTap
