import NotificationTap.Mismatch

/-!
# Why and where a JSON text is refused

A reader consumes a list of characters, so a failure is placed by what is left of the text there.

* `Json.Cause`, `Cause.category`, `Cause.message`: why reading stopped.
* `Json.Failure`: a cause and its place in the text that is left.
* `Json.Error`: a cause and its line and column in the whole text; `Failure.locate` finds them.
* `Json.Read`: what a reader returns, a value and the text after it, or a failure.
-/

namespace NotificationTap.Json

/-- Why reading a JSON text stopped. -/
inductive Cause where
  | eofValue
  | eofArray
  | eofObject
  | eofString
  | expectedColon
  | expectedArrayCommaOrEnd
  | expectedObjectCommaOrEnd
  | expectedWord
  | expectedValue
  | invalidEscape
  | invalidNumber
  | numberOutOfRange
  | loneSurrogate
  | unfinishedSurrogatePair
  | keyNotString
  | controlCharacter
  | trailingComma
  | trailingCharacters
  | nestedTooDeep
  /-- A value of the wrong type. -/
  | mismatch (mismatch : Mismatch)
  /-- An array of `count` items where a record of two fields was needed. -/
  | tooShort (count : Nat) (record : String)
  | missingField (name : String)
  | duplicateField (name : String)
  /-- A name that is none of an enumeration's cases. -/
  | unknownVariant (name : String) (known : List String)
deriving DecidableEq, Repr

/-- The three kinds of refusal. -/
inductive Category where
  /-- The text ends too early. -/
  | eof
  /-- The text is no JSON. -/
  | syntactic
  /-- The text is JSON, but not of the type that was needed. -/
  | data
deriving DecidableEq, Repr

/-- The kind of refusal that a cause belongs to. -/
def Cause.category : Cause → Category
  | .eofValue | .eofArray | .eofObject | .eofString => .eof
  | .mismatch _ | .tooShort .. | .missingField _ | .duplicateField _ | .unknownVariant .. => .data
  | _ => .syntactic

/-- Names between backquotes, with `or` before the last. -/
def nameChoice : List String → String
  | [] => ""
  | [a] => "`" ++ a ++ "`"
  | [a, b] => "`" ++ a ++ "` or `" ++ b ++ "`"
  | a :: rest => "`" ++ a ++ "`, " ++ nameChoice rest

/-- The words of a cause. -/
def Cause.message : Cause → String
  | .eofValue => "EOF while parsing a value"
  | .eofArray => "EOF while parsing a list"
  | .eofObject => "EOF while parsing an object"
  | .eofString => "EOF while parsing a string"
  | .expectedColon => "expected `:`"
  | .expectedArrayCommaOrEnd => "expected `,` or `]`"
  | .expectedObjectCommaOrEnd => "expected `,` or `\x7d`"
  | .expectedWord => "expected ident"
  | .expectedValue => "expected value"
  | .invalidEscape => "invalid escape"
  | .invalidNumber => "invalid number"
  | .numberOutOfRange => "number out of range"
  | .loneSurrogate => "lone leading surrogate in hex escape"
  | .unfinishedSurrogatePair => "unexpected end of hex escape"
  | .keyNotString => "key must be a string"
  | .controlCharacter => "control character (\\u0000-\\u001F) found while parsing a string"
  | .trailingComma => "trailing comma"
  | .trailingCharacters => "trailing characters"
  | .nestedTooDeep => "recursion limit exceeded"
  | .mismatch m => m.message
  | .tooShort count record =>
    "invalid length " ++ toString count ++ ", expected struct " ++ record ++ " with 2 elements"
  | .missingField name => "missing field `" ++ name ++ "`"
  | .duplicateField name => "duplicate field `" ++ name ++ "`"
  | .unknownVariant name known => "unknown variant `" ++ name ++ "`, expected " ++ nameChoice known

/-- A cause and its place: `ahead` bytes past the start of the text that is left, and never past
the end. -/
structure Failure where
  /-- Why reading stopped. -/
  cause : Cause
  /-- What is left of the text. -/
  rest : List Char
  /-- How many bytes past the start of `rest` the place is. -/
  ahead : Nat
deriving DecidableEq, Repr

/-- What a reader returns: a value and the text after it, or a failure. -/
inductive Read (α : Type) where
  | done (value : α) (rest : List Char)
  | failed (failure : Failure)
deriving DecidableEq, Repr

/-- Reading goes on after a value, and a failure ends it. -/
def Read.andThen (read : Read α) (next : α → List Char → Read β) : Read β :=
  match read with
  | .done value rest => next value rest
  | .failed f => .failed f

/-- The value is changed, the text after it is not. -/
def Read.map (change : α → β) (read : Read α) : Read β :=
  match read with
  | .done value rest => .done (change value) rest
  | .failed f => .failed f

@[simp] theorem Read.andThen_done (value : α) (rest : List Char)
    (next : α → List Char → Read β) : (Read.done value rest).andThen next = next value rest := rfl

@[simp] theorem Read.andThen_failed (f : Failure) (next : α → List Char → Read β) :
    (Read.failed f).andThen next = .failed f := rfl

@[simp] theorem Read.map_done (change : α → β) (value : α) (rest : List Char) :
    (Read.done value rest).map change = .done (change value) rest := rfl

@[simp] theorem Read.map_failed (change : α → β) (f : Failure) :
    (Read.failed f).map change = .failed f := rfl

/-- A failure where the text that is left starts. -/
def failAt (cause : Cause) (rest : List Char) : Read α := .failed ⟨cause, rest, 0⟩

/-- A failure at the next byte. -/
def failNext (cause : Cause) (rest : List Char) : Read α := .failed ⟨cause, rest, 1⟩

/-- A cause and its line (from 1) and column (in bytes, of the line's part before the place). -/
structure Error where
  /-- Why the text is refused. -/
  cause : Cause
  /-- The line of the place. -/
  line : Nat
  /-- The bytes of that line up to the place. -/
  column : Nat
deriving DecidableEq, Repr

/-- The full text of an error. -/
def Error.message (e : Error) : String :=
  e.cause.message ++ " at line " ++ toString e.line ++ " column " ++ toString e.column

/-- Size of a text in bytes. -/
def byteCount : List Char → Nat
  | [] => 0
  | c :: rest => c.utf8Size + byteCount rest

/-- Line and column after the first `bytes` bytes of a text, starting from `line` and `column`. -/
def advance (line column : Nat) : List Char → Nat → Nat × Nat
  | [], _ => (line, column)
  | _ :: _, 0 => (line, column)
  | c :: rest, bytes =>
    if c = '\n' then advance (line + 1) 0 rest (bytes - 1)
    else advance line (column + min bytes c.utf8Size) rest (bytes - c.utf8Size)

/-- The failure's line and column in the whole text. -/
def Failure.locate (text : List Char) (f : Failure) : Error :=
  let place := advance 1 0 text (byteCount text - byteCount f.rest + f.ahead)
  ⟨f.cause, place.1, place.2⟩

end NotificationTap.Json
