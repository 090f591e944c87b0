import NotificationTap.Decimal.Layout
import NotificationTap.Json.Numeral
import NotificationTap.Json.Quoted

/-!
# JSON texts of values

* `Json.chars`, `Json.compact`: a value without any blank.
* `Json.indented`: a value with one member or item to a line, indented by two spaces a level.
-/

namespace NotificationTap.Json

/-- How a number is written. -/
def Number.chars : Number → List Char
  | .integer n => integerText n
  | .double x => jsonText x

mutual

/-- A value without any blank. -/
def chars : Json → List Char
  | .null => ['n', 'u', 'l', 'l']
  | .bool true => ['t', 'r', 'u', 'e']
  | .bool false => ['f', 'a', 'l', 's', 'e']
  | .number n => n.chars
  | .string s => quote s
  | .array [] => ['[', ']']
  | .array (x :: xs) => '[' :: chars x ++ itemsChars xs
  | .object [] => ['{', '}']
  | .object ((k, x) :: ms) => '{' :: quote k ++ ':' :: chars x ++ membersChars ms

/-- The items after the first, and the closing bracket. -/
def itemsChars : List Json → List Char
  | [] => [']']
  | x :: xs => ',' :: chars x ++ itemsChars xs

/-- The members after the first, and the closing brace. -/
def membersChars : List (String × Json) → List Char
  | [] => ['}']
  | (k, x) :: ms => ',' :: quote k ++ ':' :: chars x ++ membersChars ms

end

/-- The JSON text of a value, without any blank. -/
def compact (value : Json) : String := String.ofList value.chars

/-- A new line, indented. -/
def lineBreak (level : Nat) : List Char := '\n' :: List.replicate (2 * level) ' '

mutual

/-- A value whose members and items stand on lines of their own, at one level more than its own. -/
def indentedChars (level : Nat) : Json → List Char
  | .array (x :: xs) =>
    '[' :: lineBreak (level + 1) ++ indentedChars (level + 1) x ++ indentedItems level xs
  | .object ((k, x) :: ms) =>
    '{' :: lineBreak (level + 1) ++ quote k ++ ':' :: ' ' :: indentedChars (level + 1) x ++
      indentedMembers level ms
  | value => chars value

/-- The items after the first, and the closing bracket on its own line. -/
def indentedItems (level : Nat) : List Json → List Char
  | [] => lineBreak level ++ [']']
  | x :: xs =>
    ',' :: lineBreak (level + 1) ++ indentedChars (level + 1) x ++ indentedItems level xs

/-- The members after the first, and the closing brace on its own line. -/
def indentedMembers (level : Nat) : List (String × Json) → List Char
  | [] => lineBreak level ++ ['}']
  | (k, x) :: ms =>
    ',' :: lineBreak (level + 1) ++ quote k ++ ':' :: ' ' :: indentedChars (level + 1) x ++
      indentedMembers level ms

end

/-- The JSON text of a value, with one member or item to a line. -/
def indented (value : Json) : String := String.ofList (indentedChars 0 value)

end NotificationTap.Json
