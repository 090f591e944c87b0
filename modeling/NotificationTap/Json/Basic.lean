/-!
# JSON values

* `Json.Number`: a number, either an integer or a double. The two kinds never equal each other.
* `Json`: a value. The members of an object are a list, and every object that is read is sorted by
  key, with one member to a key.
* `Json.insert`: stores a member in a sorted list. `List.lookup` looks one up.
* `Json.beq`: equality; doubles are compared as numbers, so `-0.0` equals `0.0`.
-/

namespace NotificationTap

/-- A JSON number. Integers that fit 64 bits (with or without sign) stay integers when read; any
other number is a double. -/
inductive Json.Number where
  | integer (value : Int)
  | double (value : Float)
deriving Repr

/-- A JSON value. -/
inductive Json where
  | null
  | bool (value : Bool)
  | number (value : Json.Number)
  | string (value : String)
  | array (items : List Json)
  | object (members : List (String × Json))

namespace Json

/-- The members of an object. -/
abbrev Members := List (String × Json)

instance : Inhabited Json := ⟨.null⟩

/-- Numbers are equal within one kind only. -/
def Number.beq : Number → Number → Bool
  | .integer a, .integer b => a == b
  | .double a, .double b => a == b
  | _, _ => false

mutual

/-- Equality of values. -/
def beq : Json → Json → Bool
  | .null, .null => true
  | .bool a, .bool b => a == b
  | .number a, .number b => a.beq b
  | .string a, .string b => a == b
  | .array xs, .array ys => beqItems xs ys
  | .object ms, .object ns => beqMembers ms ns
  | _, _ => false

/-- Equality of arrays, item by item. -/
def beqItems : List Json → List Json → Bool
  | [], [] => true
  | x :: xs, y :: ys => beq x y && beqItems xs ys
  | _, _ => false

/-- Equality of objects, member by member: both are sorted by key. -/
def beqMembers : List (String × Json) → List (String × Json) → Bool
  | [], [] => true
  | (k, x) :: ms, (l, y) :: ns => k == l && beq x y && beqMembers ms ns
  | _, _ => false

end

instance : BEq Json := ⟨beq⟩

/-- Stores a member in a list sorted by key, in place of an earlier member of that key. -/
def insert (key : String) (value : Json) : Members → Members
  | [] => [(key, value)]
  | (k, v) :: rest =>
    if key < k then (key, value) :: (k, v) :: rest
    else if key = k then (key, value) :: rest
    else (k, v) :: insert key value rest

/-- The string that a value is. -/
def string? : Json → Option String
  | .string s => some s
  | _ => none

/-- The members of a value that is an object. -/
def object? : Json → Option Members
  | .object ms => some ms
  | _ => none

end Json

end NotificationTap
