import NotificationTap.Json.Failure
import NotificationTap.Text.Hex

/-!
# JSON strings

* `Json.quote`: how a string is written.
* `Json.unquote`: reading one back, from after its opening quotation mark. Characters outside the
  basic plane may be written as a pair of surrogate escapes; an unpaired surrogate is refused.
* `Json.skipQuoted`: passing over one that nobody needs, where any four hexadecimal digits do.
-/

namespace NotificationTap.Json

open Text (hexDigit hexDigit?)

/-! ## Hexadecimal escapes -/

/-- The value of four hexadecimal digits. -/
def hexQuad? (a b c d : Char) : Option Nat := do
  let a ← hexDigit? a
  let b ← hexDigit? b
  let c ← hexDigit? c
  let d ← hexDigit? d
  return ((a * 16 + b) * 16 + c) * 16 + d

/-- The failure where four hexadecimal digits should start: the text ends within the next four
bytes, or those bytes are no such digits. -/
def hexFailure (rest : List Char) : Failure :=
  if byteCount rest < 4 then ⟨.eofString, [], 0⟩ else ⟨.invalidEscape, rest, 4⟩

/-- Whether a number is the first half of a surrogate pair. -/
def isHighSurrogate (n : Nat) : Bool := 0xD800 ≤ n && n ≤ 0xDBFF

/-- Whether a number is the second half of a surrogate pair. -/
def isLowSurrogate (n : Nat) : Bool := 0xDC00 ≤ n && n ≤ 0xDFFF

/-- The character of a surrogate pair. -/
def pairChar (high low : Nat) : Char :=
  Char.ofNat ((high - 0xD800) * 0x400 + (low - 0xDC00) + 0x10000)

/-! ## Writing -/

/-- One character of a written string. Quotation mark, backslash and the characters below U+0020
are escaped, by a letter where there is one. -/
def escape (c : Char) : List Char :=
  if c = '"' then ['\\', '"']
  else if c = '\\' then ['\\', '\\']
  else if c = '\x08' then ['\\', 'b']
  else if c = '\x0c' then ['\\', 'f']
  else if c = '\n' then ['\\', 'n']
  else if c = '\r' then ['\\', 'r']
  else if c = '\t' then ['\\', 't']
  else if c < ' ' then ['\\', 'u', '0', '0', hexDigit (c.toNat / 16), hexDigit (c.toNat % 16)]
  else [c]

/-- A string between quotation marks. -/
def quote (s : String) : List Char := '"' :: s.toList.flatMap escape ++ ['"']

/-! ## Reading -/

/-- The character that a backslash and one letter stand for. -/
def shortEscape? (c : Char) : Option Char :=
  if c = '"' ∨ c = '\\' ∨ c = '/' then some c
  else if c = 'b' then some '\x08'
  else if c = 'f' then some '\x0c'
  else if c = 'n' then some '\n'
  else if c = 'r' then some '\r'
  else if c = 't' then some '\t'
  else none

/-- The characters of a string, from after its opening quotation mark to its closing one. -/
def unquote : List Char → Read (List Char)
  | [] => failAt .eofString []
  | c :: rest =>
    if c = '"' then .done [] rest
    else if c = '\\' then
      match rest with
      | [] => failAt .eofString []
      | e :: rest =>
        if e = 'u' then
          match rest with
          | a :: b :: c :: d :: rest' =>
            match hexQuad? a b c d with
            | none => .failed (hexFailure rest)
            | some n =>
              if isLowSurrogate n then failAt .loneSurrogate rest'
              else if isHighSurrogate n then
                match rest' with
                | [] => failAt .eofString []
                | '\\' :: [] => failAt .eofString []
                | '\\' :: 'u' :: low =>
                  match low with
                  | a :: b :: c :: d :: low' =>
                    match hexQuad? a b c d with
                    | none => .failed (hexFailure low)
                    | some m =>
                      if isLowSurrogate m then (unquote low').map (pairChar n m :: ·)
                      else failAt .loneSurrogate low'
                  | low => .failed (hexFailure low)
                | '\\' :: other => failNext .unfinishedSurrogatePair other
                | other => failNext .unfinishedSurrogatePair other
              else (unquote rest').map (Char.ofNat n :: ·)
          | rest => .failed (hexFailure rest)
        else
          match shortEscape? e with
          | some x => (unquote rest).map (x :: ·)
          | none => failNext .invalidEscape (e :: rest)
    else if c < ' ' then failNext .controlCharacter (c :: rest)
    else (unquote rest).map (c :: ·)

/-- The text after a string, from after its opening quotation mark. -/
def skipQuoted : List Char → Read Unit
  | [] => failAt .eofString []
  | c :: rest =>
    if c = '"' then .done () rest
    else if c = '\\' then
      match rest with
      | [] => failAt .eofString []
      | e :: rest =>
        if e = 'u' then
          match rest with
          | a :: b :: c :: d :: rest' =>
            match hexQuad? a b c d with
            | none => .failed (hexFailure rest)
            | some _ => skipQuoted rest'
          | rest => .failed (hexFailure rest)
        else
          match shortEscape? e with
          | some _ => skipQuoted rest
          | none => failNext .invalidEscape (e :: rest)
    else if c < ' ' then failAt .controlCharacter (c :: rest)
    else skipQuoted rest

end NotificationTap.Json
