import NotificationTap.Text.Unprintable

/-!
# Strings quoted in messages

A message shows a string between quotation marks, so that its end and its unprintable characters
can be seen.

* `escaped`: how one character is written between the quotation marks.
* `quoted`: the whole string.
-/

namespace NotificationTap.Text

/-- Lower-case hexadecimal digits of `n`, at least one. -/
def hexDigits (n : Nat) : List Char := Nat.toDigits 16 n

/-- One character of a quoted string: a backslash goes before the quotation mark and itself, four
control characters have a letter, and an unprintable character is written by number. -/
def escaped (c : Char) : List Char :=
  if c = '"' then ['\\', '"']
  else if c = '\\' then ['\\', '\\']
  else if c = '\n' then ['\\', 'n']
  else if c = '\r' then ['\\', 'r']
  else if c = '\t' then ['\\', 't']
  else if c = '\x00' then ['\\', '0']
  else if isUnprintable c then '\\' :: 'u' :: '{' :: hexDigits c.toNat ++ ['}']
  else [c]

/-- The string between quotation marks, each character escaped. -/
def quoted (s : String) : String :=
  String.ofList ('"' :: s.toList.flatMap escaped ++ ['"'])

end NotificationTap.Text
