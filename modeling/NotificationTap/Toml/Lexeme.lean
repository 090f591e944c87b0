import NotificationTap.Text.Hex

/-!
# The words of a TOML document

Readers consume a list of characters and return a value with the text after it, or nothing.

* `Toml.skipBlanks`, `skipTrivia`, `endLine?`: blanks, comments and line ends.
* `Toml.string?`: the four kinds of strings.
* `Toml.key?`: a dotted key.
-/

namespace NotificationTap.Toml

open Text (hexDigit?)

/-! ## Blanks, comments and line ends -/

/-- Blanks within a line. -/
def isBlank (c : Char) : Bool := c = ' ' || c = '\t'

/-- A text without the blanks in front. -/
def skipBlanks (text : List Char) : List Char := text.dropWhile isBlank

/-- Characters of a comment: all but control characters, the tab excepted. -/
def isCommentChar (c : Char) : Bool := c = '\t' || (' ' ≤ c && c ≠ '\x7f')

/-- The text after a line end. -/
def lineEnd? : List Char → Option (List Char)
  | '\n' :: rest => some rest
  | '\r' :: '\n' :: rest => some rest
  | _ => none

/-- The text after a line end, or the end of the text. -/
def lineEndOrEnd? : List Char → Option (List Char)
  | [] => some []
  | text => lineEnd? text

/-- The text after what may end a line: blanks, a comment, and the line end. -/
def endLine? (text : List Char) : Option (List Char) :=
  match skipBlanks text with
  | '#' :: rest => lineEndOrEnd? (rest.dropWhile isCommentChar)
  | rest => lineEndOrEnd? rest

/-- A text without the blanks, comments and line ends in front; `inComment` if a comment has
started. -/
def skipTrivia (inComment : Bool) : List Char → List Char
  | [] => []
  | c :: rest =>
    if c = '\n' then skipTrivia false rest
    else if c = '\r' then
      match rest with
      | '\n' :: rest => skipTrivia false rest
      | rest => c :: rest
    else if inComment then
      if isCommentChar c then skipTrivia true rest else c :: rest
    else if isBlank c then skipTrivia false rest
    else if c = '#' then skipTrivia true rest
    else c :: rest

/-! ## Strings -/

/-- The character whose number the hexadecimal digits give, if there is one. -/
def hexChar? (digits : List Char) : Option Char := do
  let code ← digits.foldlM (fun code c => (hexDigit? c).map (code * 16 + ·)) 0
  if code.isValidChar then some (Char.ofNat code) else none

/-- The character that a backslash and one letter stand for. -/
def shortEscape? (c : Char) : Option Char :=
  if c = 'b' then some '\x08'
  else if c = 'f' then some '\x0c'
  else if c = 'n' then some '\n'
  else if c = 'r' then some '\r'
  else if c = 't' then some '\t'
  else if c = '"' ∨ c = '\\' then some c
  else none

/-- Characters that stand for themselves between quotation marks; the mark itself and the backslash
are looked at before. -/
def isStringChar (c : Char) : Bool := isCommentChar c

/-- Puts a character in front of a string. -/
def consChar (c : Char) (read? : Option (List Char × List Char)) : Option (List Char × List Char) :=
  read?.map fun (cs, rest) => (c :: cs, rest)

/-- A string on one line with escapes, from after its opening quotation mark. -/
def basicString? : List Char → Option (List Char × List Char)
  | [] => none
  | c :: rest =>
    if c = '"' then some ([], rest)
    else if c = '\\' then
      match rest with
      | 'u' :: a :: b :: c :: d :: rest =>
        (hexChar? [a, b, c, d]).bind fun x => consChar x (basicString? rest)
      | 'U' :: a :: b :: c :: d :: e :: f :: g :: h :: rest =>
        (hexChar? [a, b, c, d, e, f, g, h]).bind fun x => consChar x (basicString? rest)
      | e :: rest => (shortEscape? e).bind fun x => consChar x (basicString? rest)
      | [] => none
    else if isStringChar c then consChar c (basicString? rest)
    else none

/-- A string on one line without escapes, from after its opening apostrophe. -/
def literalString? : List Char → Option (List Char × List Char)
  | [] => none
  | c :: rest =>
    if c = '\'' then some ([], rest)
    else if isStringChar c then consChar c (literalString? rest)
    else none

/-- The closing marks of a string over several lines, from after three of them: up to two more
belong to the string. -/
def closeMarks (mark : Char) : List Char → List Char × List Char
  | a :: b :: rest =>
    if a = mark then if b = mark then ([mark, mark], rest) else ([mark], b :: rest)
    else ([], a :: b :: rest)
  | [a] => if a = mark then ([mark], []) else ([], [a])
  | [] => ([], [])

/-- Whether only blanks are left in the line. -/
def restOfLineBlank (text : List Char) : Bool := (lineEnd? (skipBlanks text)).isSome

/-- A string over several lines with escapes, from after its opening marks. After a backslash at the
end of a line, blanks and line ends are passed over up to the next other character: `folding`. -/
def basicText? (folding : Bool) : List Char → Option (List Char × List Char)
  | [] => none
  | c :: rest =>
    if c = '"' then
      match rest with
      | '"' :: '"' :: rest => some (closeMarks '"' rest)
      | rest => consChar c (basicText? false rest)
    else if c = '\\' then
      if restOfLineBlank rest then basicText? true rest
      else
        match rest with
        | 'u' :: a :: b :: c :: d :: rest =>
          (hexChar? [a, b, c, d]).bind fun x => consChar x (basicText? false rest)
        | 'U' :: a :: b :: c :: d :: e :: f :: g :: h :: rest =>
          (hexChar? [a, b, c, d, e, f, g, h]).bind fun x => consChar x (basicText? false rest)
        | e :: rest => (shortEscape? e).bind fun x => consChar x (basicText? false rest)
        | [] => none
    else if c = '\n' then
      if folding then basicText? true rest else consChar '\n' (basicText? false rest)
    else if c = '\r' then
      match rest with
      | '\n' :: rest =>
        if folding then basicText? true rest else consChar '\n' (basicText? false rest)
      | _ => none
    else if folding && isBlank c then basicText? true rest
    else if isStringChar c then consChar c (basicText? false rest)
    else none

/-- A string over several lines without escapes, from after its opening marks. -/
def literalText? : List Char → Option (List Char × List Char)
  | [] => none
  | c :: rest =>
    if c = '\'' then
      match rest with
      | '\'' :: '\'' :: rest => some (closeMarks '\'' rest)
      | rest => consChar c (literalText? rest)
    else if c = '\n' then consChar '\n' (literalText? rest)
    else if c = '\r' then
      match rest with
      | '\n' :: rest => consChar '\n' (literalText? rest)
      | _ => none
    else if isStringChar c then consChar c (literalText? rest)
    else none

/-- A text without the line end in front, if there is one. -/
def skipLineEnd (text : List Char) : List Char := (lineEnd? text).getD text

/-- A string of any of the four kinds. -/
def string? : List Char → Option (List Char × List Char)
  | '"' :: '"' :: '"' :: rest => basicText? false (skipLineEnd rest)
  | '"' :: rest => basicString? rest
  | '\'' :: '\'' :: '\'' :: rest => literalText? (skipLineEnd rest)
  | '\'' :: rest => literalString? rest
  | _ => none

/-! ## Keys -/

/-- Characters of a key without quotes. -/
def isBareKeyChar (c : Char) : Bool := c.isAlphanum || c = '_' || c = '-'

/-- One part of a dotted key. -/
def simpleKey? (text : List Char) : Option (List Char × List Char) :=
  match text with
  | '"' :: rest => basicString? rest
  | '\'' :: rest => literalString? rest
  | text =>
    match text.takeWhile isBareKeyChar with
    | [] => none
    | c :: cs => some (c :: cs, text.dropWhile isBareKeyChar)

/-- The parts of a dotted key, with the blanks around each. -/
def keyParts? : Nat → List Char → Option (List String × List Char)
  | 0, _ => none
  | fuel + 1, text => do
    let (part, rest) ← simpleKey? (skipBlanks text)
    match skipBlanks rest with
    | '.' :: rest =>
      let (parts, rest) ← keyParts? fuel rest
      return (String.ofList part :: parts, rest)
    | rest => return ([String.ofList part], rest)

/-- A bound on the parts of a key and on the nesting of values. -/
def maxDepth : Nat := 79

/-- A dotted key, as the parts before the last and the last one. -/
def key? (text : List Char) : Option ((List String × String) × List Char) := do
  let (parts, rest) ← keyParts? (text.length + 1) text
  if parts.length ≤ maxDepth then return ((parts.dropLast, ← parts.getLast?), rest)
  else none

end NotificationTap.Toml
