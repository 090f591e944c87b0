import NotificationTap.Json.Numeral
import NotificationTap.Json.Quoted
import NotificationTap.Decimal.Layout

/-!
# Reading JSON values

* `Json.firstItem`, `nextItem`, `firstMember`, `nextMember`, `readColon`: the punctuation of arrays
  and objects. They answer whether an item or member follows, and leave what is after the opening
  quotation mark of its key.
* `Json.readValue`: one value. `depth` is how many arrays and objects may still be opened around
  each other; `fuel` bounds the calls, and twice the length of the text is enough.
* `Json.parse`: a whole text. `Json.parseObject`: a whole text that has to be an object.
-/

namespace NotificationTap.Json

/-! ## Blanks and words -/

/-- Blank characters between the parts of a text. -/
def isBlank (c : Char) : Bool := c = ' ' || c = '\t' || c = '\n' || c = '\r'

/-- A text without the blanks in front. -/
def skipBlanks (text : List Char) : List Char := text.dropWhile isBlank

/-- The rest of a word whose first letter chose it. -/
def readWord : List Char → List Char → Read Unit
  | [], text => .done () text
  | _ :: _, [] => failAt .eofValue []
  | w :: word, c :: rest =>
    if c = w then readWord word rest else failNext .expectedWord (c :: rest)

/-! ## Punctuation -/

/-- After an opening bracket: whether an item follows, or the closing bracket. -/
def firstItem (text : List Char) : Read Bool :=
  match skipBlanks text with
  | [] => failNext .eofArray []
  | ']' :: rest => .done false rest
  | rest => .done true rest

/-- After an item: whether another follows, or the closing bracket. -/
def nextItem (text : List Char) : Read Bool :=
  match skipBlanks text with
  | [] => failNext .eofArray []
  | ']' :: rest => .done false rest
  | ',' :: rest =>
    match skipBlanks rest with
    | [] => failNext .eofValue []
    | ']' :: rest => failNext .trailingComma (']' :: rest)
    | rest => .done true rest
  | rest => failNext .expectedArrayCommaOrEnd rest

/-- After an opening brace: whether a key follows, or the closing brace. -/
def firstMember (text : List Char) : Read Bool :=
  match skipBlanks text with
  | [] => failNext .eofObject []
  | '}' :: rest => .done false rest
  | '"' :: rest => .done true rest
  | rest => failNext .keyNotString rest

/-- After a member: whether another key follows, or the closing brace. -/
def nextMember (text : List Char) : Read Bool :=
  match skipBlanks text with
  | [] => failNext .eofObject []
  | '}' :: rest => .done false rest
  | ',' :: rest =>
    match skipBlanks rest with
    | [] => failNext .eofValue []
    | '}' :: rest => failNext .trailingComma ('}' :: rest)
    | '"' :: rest => .done true rest
    | rest => failNext .keyNotString rest
  | rest => failNext .expectedObjectCommaOrEnd rest

/-- The colon after a key. -/
def readColon (text : List Char) : Read Unit :=
  match skipBlanks text with
  | [] => failNext .eofObject []
  | ':' :: rest => .done () rest
  | rest => failNext .expectedColon rest

/-! ## Values -/

mutual

/-- One value. -/
def readValue (fuel depth : Nat) (text : List Char) : Read Json :=
  match fuel with
  | 0 => failNext .eofValue []
  | fuel + 1 =>
    match skipBlanks text with
    | [] => failNext .eofValue []
    | c :: rest =>
      if c = 'n' then (readWord ['u', 'l', 'l'] rest).map fun _ => .null
      else if c = 't' then (readWord ['r', 'u', 'e'] rest).map fun _ => .bool true
      else if c = 'f' then (readWord ['a', 'l', 's', 'e'] rest).map fun _ => .bool false
      else if c = '"' then (unquote rest).map fun s => .string (String.ofList s)
      else if c = '-' then (readNumber true rest).map .number
      else if c.isDigit then (readNumber false (c :: rest)).map .number
      else if c = '[' then
        match depth with
        | 0 => failNext .nestedTooDeep (c :: rest)
        | depth + 1 => (readItems fuel depth (firstItem rest)).map .array
      else if c = '{' then
        match depth with
        | 0 => failNext .nestedTooDeep (c :: rest)
        | depth + 1 => (readMembers fuel depth (firstMember rest) []).map .object
      else failNext .expectedValue (c :: rest)

/-- The items up to the closing bracket. -/
def readItems (fuel depth : Nat) (ahead : Read Bool) : Read (List Json) :=
  match fuel with
  | 0 => failNext .eofArray []
  | fuel + 1 =>
    ahead.andThen fun follows rest =>
      if follows then
        (readValue fuel depth rest).andThen fun x rest =>
          (readItems fuel depth (nextItem rest)).map (x :: ·)
      else .done [] rest

/-- The members up to the closing brace, stored after those already read. -/
def readMembers (fuel depth : Nat) (ahead : Read Bool) (members : Members) : Read Members :=
  match fuel with
  | 0 => failNext .eofObject []
  | fuel + 1 =>
    ahead.andThen fun follows rest =>
      if follows then
        (unquote rest).andThen fun key rest =>
          (readColon rest).andThen fun _ rest =>
            (readValue fuel depth rest).andThen fun x rest =>
              readMembers fuel depth (nextMember rest) (insert (String.ofList key) x members)
      else .done members rest

end

/-! ## Whole texts -/

/-- Nothing but blanks is left. -/
def readEnd (text : List Char) : Read Unit :=
  match skipBlanks text with
  | [] => .done () []
  | rest => failNext .trailingCharacters rest

/-- Reads a whole text with a reader. -/
def parseWith (read : List Char → Read α) (text : String) : Except Error α :=
  match (read text.toList).andThen fun x rest => (readEnd rest).map fun _ => x with
  | .done x _ => .ok x
  | .failed f => .error (f.locate text.toList)

/-- How many arrays and objects may be nested in each other. -/
def maxDepth : Nat := 127

/-- A number of calls that suffices for a text. -/
def enoughFuel (text : List Char) : Nat := 2 * text.length + 2

/-- The value of a whole text. -/
def parse (text : String) : Except Error Json :=
  parseWith (fun cs => readValue (enoughFuel cs) maxDepth cs) text

/-! ## Values of the wrong type -/

/-- What a number is called when it stands in place of another type. -/
def Number.found : Number → Found
  | .integer n => .integer n
  | .double x => .floating (String.ofList (jsonText x))

/-- The failure at what stands here in place of a value of another type. A word, string or number
is read to its end first; an array or object is not entered. -/
def readMismatch (wanted : Wanted) : List Char → Read α
  | [] => failNext .expectedValue []
  | c :: rest =>
    let fail (found : Found) (rest : List Char) : Read α := failAt (.mismatch ⟨found, wanted⟩) rest
    if c = 'n' then (readWord ['u', 'l', 'l'] rest).andThen fun _ => fail .null
    else if c = 't' then (readWord ['r', 'u', 'e'] rest).andThen fun _ => fail (.boolean true)
    else if c = 'f' then (readWord ['a', 'l', 's', 'e'] rest).andThen fun _ => fail (.boolean false)
    else if c = '"' then (unquote rest).andThen fun s => fail (.string (String.ofList s))
    else if c = '-' then (readNumber true rest).andThen fun n => fail n.found
    else if c.isDigit then (readNumber false (c :: rest)).andThen fun n => fail n.found
    else if c = '[' then fail .sequence (c :: rest)
    else if c = '{' then fail .map (c :: rest)
    else failNext .expectedValue (c :: rest)

/-- The members of the object that starts here. -/
def readObject (text : List Char) : Read Members :=
  match skipBlanks text with
  | [] => failNext .eofValue []
  | '{' :: rest => readMembers (enoughFuel rest) (maxDepth - 1) (firstMember rest) []
  | rest => readMismatch .map rest

/-- The members of a whole text that has to be an object. -/
def parseObject (text : String) : Except Error Members := parseWith readObject text

end NotificationTap.Json
