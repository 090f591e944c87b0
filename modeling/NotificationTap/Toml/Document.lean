import NotificationTap.Toml.Reader

/-!
# TOML documents

* `Toml.Draft`: a document as far as it is read. The entries after a header are collected apart,
  and stored in the document once the next header starts.
* `Toml.readLine?`: what one line adds to the draft. A value may go on over further lines.
* `Toml.parse?`: the table of a whole document, if it is well formed.
-/

namespace NotificationTap.Toml

/-- A header: the keys of the table that it names, and whether that is one element of many. -/
structure Header where
  /-- The keys before the last. -/
  path : List String
  /-- The last key. -/
  key : String
  /-- Whether the header is `[[…]]`. -/
  isElement : Bool
deriving DecidableEq, Repr

/-- A document as far as it is read. -/
structure Draft where
  /-- The document without the open table. -/
  root : Table := []
  /-- The header of the open table; at the start the document itself is open. -/
  header? : Option Header := none
  /-- The entries of the open table. -/
  entries : Table := []

namespace Draft

/-- The document with the open table stored in it. -/
def close? (draft : Draft) : Option Table :=
  match draft.header? with
  | none => some draft.entries
  | some header =>
    if header.isElement then draft.root.closeElement header.path header.key draft.entries
    else draft.root.closeHeader header.path header.key draft.entries

/-- Stores the open table and opens that of a header. -/
def start? (header : Header) (draft : Draft) : Option Draft := do
  let root ← draft.close?
  if header.isElement then
    return ⟨← root.openElement header.path header.key, some header, []⟩
  else
    let (root, entries) ← root.openHeader header.path header.key
    return ⟨root, some header, entries⟩

/-- Stores a value in the open table. -/
def assign? (path : List String) (key : String) (value : Value) (draft : Draft) : Option Draft :=
  (draft.entries.assign path key value).map fun entries => { draft with entries }

end Draft

/-- A header, from after its first bracket, with the rest of its line. -/
def header? (text : List Char) : Option (Header × List Char) :=
  match text with
  | '[' :: text => do
    let ((path, key), rest) ← key? text
    return (⟨path, key, true⟩, ← endLine? (← word? [']', ']'] rest))
  | text => do
    let ((path, key), rest) ← key? text
    return (⟨path, key, false⟩, ← endLine? (← expect? ']' rest))

/-- An entry with the rest of its line. -/
def entry? (text : List Char) : Option (((List String × String) × Value) × List Char) := do
  let (key, rest) ← key? text
  let (value, rest) ← topValue? (skipBlanks (← expect? '=' rest))
  return ((key, value), ← endLine? rest)

/-- What the line that starts here adds to a draft; no blanks stand in front of it, and it is not
the end of the text. -/
def readLine? (draft : Draft) (text : List Char) : Option (Draft × List Char) :=
  match text with
  | '[' :: rest => do
    let (header, rest) ← header? rest
    return (← draft.start? header, rest)
  | '\n' :: rest => some (draft, rest)
  | '\r' :: rest => (expect? '\n' rest).map fun rest => (draft, rest)
  | '#' :: rest => (endLine? ('#' :: rest)).map fun rest => (draft, rest)
  | text => do
    let (((path, key), value), rest) ← entry? text
    return (← draft.assign? path key value, rest)

/-- The lines up to the end of the text. Each takes at least one character, so that the length of
the text is enough fuel. -/
def readLines? : Nat → Draft → List Char → Option Draft
  | 0, _, _ => none
  | fuel + 1, draft, text =>
    match skipBlanks text with
    | [] => some draft
    | text => (readLine? draft text).bind fun (draft, rest) => readLines? fuel draft rest

/-- A text without the byte order mark in front. -/
def skipByteOrderMark : List Char → List Char
  | '\uFEFF' :: rest => rest
  | text => text

/-- The table of a whole document. -/
def parse? (text : String) : Option Table :=
  let text := skipByteOrderMark text.toList
  (readLines? (text.length + 1) {} text).bind Draft.close?

end NotificationTap.Toml
