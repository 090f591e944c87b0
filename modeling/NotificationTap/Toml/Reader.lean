import NotificationTap.Toml.Scalar

/-!
# Reading TOML values

* `Toml.value?`: one value. `depth` is how many arrays and tables may still be opened around each
  other; `fuel` bounds the calls, and twice the length of the text is enough.
* `Toml.items?`: the items of an array, which may stand on lines of their own.
* `Toml.pairs?`: the entries of a table in braces, which stands on one line.
-/

namespace NotificationTap.Toml

/-- The text after a word. -/
def word? : List Char → List Char → Option (List Char)
  | [], text => some text
  | _ :: _, [] => none
  | w :: word, c :: rest => if c = w then word? word rest else none

mutual

/-- One value, whose first character tells its type. -/
def value? (fuel depth : Nat) (text : List Char) : Option (Value × List Char) :=
  match fuel with
  | 0 => none
  | fuel + 1 =>
    match text with
    | [] => none
    | c :: rest =>
      if c = '"' ∨ c = '\'' then
        (string? (c :: rest)).map fun (s, rest) => (.string (String.ofList s), rest)
      else if c = 't' then (word? ['r', 'u', 'e'] rest).map fun rest => (.boolean true, rest)
      else if c = 'f' then (word? ['a', 'l', 's', 'e'] rest).map fun rest => (.boolean false, rest)
      else if c = 'i' ∨ c = 'n' then (special? (c :: rest)).map fun (x, rest) => (.double x, rest)
      else if c = '[' then
        match depth with
        | 0 => none
        | depth + 1 => (items? fuel depth rest).map fun (items, rest) => (.array items, rest)
      else if c = '{' then
        match depth with
        | 0 => none
        | depth + 1 =>
          match skipBlanks rest with
          | '}' :: rest => some (.table .inline [], rest)
          | rest =>
            (pairs? fuel depth rest []).map fun (entries, rest) => (.table .inline entries, rest)
      else if c = '+' ∨ c = '-' ∨ c.isDigit then number? (c :: rest)
      else none

/-- The items up to the closing bracket; a comma may stand in front of it. -/
def items? (fuel depth : Nat) (text : List Char) : Option (List Value × List Char) :=
  match fuel with
  | 0 => none
  | fuel + 1 =>
    match skipTrivia false text with
    | ']' :: rest => some ([], rest)
    | rest =>
      (value? fuel depth rest).bind fun (x, rest) =>
        match skipTrivia false rest with
        | ',' :: rest => (items? fuel depth rest).map fun (xs, rest) => (x :: xs, rest)
        | ']' :: rest => some ([x], rest)
        | _ => none

/-- One entry or more up to the closing brace, stored after those already read. -/
def pairs? (fuel depth : Nat) (text : List Char) (table : Table) : Option (Table × List Char) :=
  match fuel with
  | 0 => none
  | fuel + 1 =>
    (key? text).bind fun ((path, key), rest) =>
      (expect? '=' rest).bind fun rest =>
        (value? fuel depth (skipBlanks rest)).bind fun (x, rest) =>
          (table.assign path key x).bind fun table =>
            match skipBlanks rest with
            | ',' :: rest => pairs? fuel depth rest table
            | '}' :: rest => some (table, rest)
            | _ => none

end

/-- One value, with nothing around it yet. -/
def topValue? (text : List Char) : Option (Value × List Char) :=
  value? (2 * text.length + 2) maxDepth text

end NotificationTap.Toml
