import NotificationTap.Json.Skipped

/-!
# Typed reading

* `Json.readBool`, `readString`, `readNullable`: single values.
* `Json.Field`: one field of a record, with what stands in for it where it is absent.
* `Json.readRecord`: a record of two fields, from an object with members in any order, or from an
  array of the fields in order. Members of other names are passed over; a field that is given twice
  is refused.
-/

namespace NotificationTap.Json

/-- A truth value. -/
def readBool (text : List Char) : Read Bool :=
  match skipBlanks text with
  | [] => failNext .eofValue []
  | 't' :: rest => (readWord ['r', 'u', 'e'] rest).map fun _ => true
  | 'f' :: rest => (readWord ['a', 'l', 's', 'e'] rest).map fun _ => false
  | rest => readMismatch .boolean rest

/-- A string, where one is needed for `wanted`. -/
def readStringFor (wanted : Wanted) (text : List Char) : Read String :=
  match skipBlanks text with
  | [] => failNext .eofValue []
  | '"' :: rest => (unquote rest).map String.ofList
  | rest => readMismatch wanted rest

/-- A string. -/
def readString (text : List Char) : Read String := readStringFor .string text

/-- The value null. -/
def readNull (text : List Char) : Read Unit :=
  match skipBlanks text with
  | [] => failNext .eofValue []
  | 'n' :: rest => readWord ['u', 'l', 'l'] rest
  | rest => readMismatch .unit rest

/-- A value or null. -/
def readNullable (read : List Char → Read α) (text : List Char) : Read (Option α) :=
  match skipBlanks text with
  | 'n' :: rest => (readWord ['u', 'l', 'l'] rest).map fun _ => none
  | rest => (read rest).map some

/-- One field of a record. -/
structure Field (α : Type) where
  /-- The key of its member. -/
  name : String
  /-- Reads its value. -/
  read : List Char → Read α
  /-- Its value in an object that has no such member. -/
  absent? : Option α := none
  /-- Its value in an array that ends before it. -/
  cut? : Option α := none

/-- The end of an array whose fields have all been read. -/
def endRow (text : List Char) : Read Unit :=
  match skipBlanks text with
  | [] => failNext .eofArray []
  | ']' :: rest => .done () rest
  | ',' :: rest =>
    match skipBlanks rest with
    | ']' :: rest => failNext .trailingComma (']' :: rest)
    | rest => failNext .trailingCharacters rest
  | rest => failNext .trailingCharacters rest

/-- The fields of a record from an array, from after its opening bracket. -/
def readRow (record : String) (f : Field α) (g : Field β) (text : List Char) : Read (α × β) :=
  (firstItem text).andThen fun follows rest =>
    if follows then
      (f.read rest).andThen fun x rest =>
        (nextItem rest).andThen fun follows rest =>
          if follows then
            (g.read rest).andThen fun y rest => (endRow rest).map fun _ => (x, y)
          else
            match g.cut? with
            | some y => .done (x, y) rest
            | none => failAt (.tooShort 1 record) rest
    else
      match f.cut?, g.cut? with
      | some x, some y => .done (x, y) rest
      | some _, none => failAt (.tooShort 1 record) rest
      | none, _ => failAt (.tooShort 0 record) rest

/-- What is left after the blanks here and the closing brace, if it is next. -/
def afterBrace (text : List Char) : List Char :=
  match skipBlanks text with
  | '}' :: rest => rest
  | rest => rest

/-- The fields of a record from the members of an object, with the fields already read. A field
that is given again is refused before its value. -/
def readFields (fuel : Nat) (f : Field α) (g : Field β) (ahead : Read Bool) (x? : Option α)
    (y? : Option β) : Read (α × β) :=
  match fuel with
  | 0 => failNext .eofObject []
  | fuel + 1 =>
    ahead.andThen fun follows rest =>
      if follows then
        (unquote rest).andThen fun key rest =>
          if String.ofList key = f.name then
            if x?.isSome then failAt (.duplicateField f.name) (afterBrace rest)
            else
              (readColon rest).andThen fun _ rest =>
                (f.read rest).andThen fun x rest =>
                  readFields fuel f g (nextMember rest) (some x) y?
          else if String.ofList key = g.name then
            if y?.isSome then failAt (.duplicateField g.name) (afterBrace rest)
            else
              (readColon rest).andThen fun _ rest =>
                (g.read rest).andThen fun y rest =>
                  readFields fuel f g (nextMember rest) x? (some y)
          else
            (readColon rest).andThen fun _ rest =>
              (skipValue (enoughFuel rest) rest).andThen fun _ rest =>
                readFields fuel f g (nextMember rest) x? y?
      else
        match x?.or f.absent?, y?.or g.absent? with
        | some x, some y => .done (x, y) rest
        | none, _ => failAt (.missingField f.name) rest
        | some _, none => failAt (.missingField g.name) rest

/-- A record of two fields, from an object or an array. -/
def readRecord (record : String) (f : Field α) (g : Field β) (text : List Char) : Read (α × β) :=
  match skipBlanks text with
  | [] => failNext .eofValue []
  | '[' :: rest => readRow record f g rest
  | '{' :: rest => readFields (enoughFuel rest) f g (firstMember rest) none none
  | rest => readMismatch (.record record) rest

end NotificationTap.Json
