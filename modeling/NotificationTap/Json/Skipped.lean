import NotificationTap.Json.Reader

/-!
# Passing over JSON values

A typed reader passes over the members that it does not know. What it passes over has to be
well-formed, but there is no limit to its nesting or to the size of its numbers, and its strings
may hold any four hexadecimal digits in an escape.

* `Json.skipValue`: the text after one value. `fuel` bounds the calls, as for `readValue`.
-/

namespace NotificationTap.Json

mutual

/-- Passes over one value. -/
def skipValue (fuel : Nat) (text : List Char) : Read Unit :=
  match fuel with
  | 0 => failNext .eofValue []
  | fuel + 1 =>
    match skipBlanks text with
    | [] => failNext .eofValue []
    | c :: rest =>
      if c = 'n' then readWord ['u', 'l', 'l'] rest
      else if c = 't' then readWord ['r', 'u', 'e'] rest
      else if c = 'f' then readWord ['a', 'l', 's', 'e'] rest
      else if c = '"' then skipQuoted rest
      else if c = '-' then skipNumber rest
      else if c.isDigit then skipNumber (c :: rest)
      else if c = '[' then
        match skipBlanks rest with
        | [] => failNext .eofArray []
        | ']' :: rest => .done () rest
        | rest => skipItems fuel rest
      else if c = '{' then
        match skipBlanks rest with
        | [] => failNext .eofObject []
        | '}' :: rest => .done () rest
        | rest => skipMembers fuel rest
      else failNext .expectedValue (c :: rest)

/-- Passes over at least one item, up to the closing bracket. -/
def skipItems (fuel : Nat) (text : List Char) : Read Unit :=
  match fuel with
  | 0 => failNext .eofArray []
  | fuel + 1 =>
    (skipValue fuel text).andThen fun _ rest =>
      match skipBlanks rest with
      | [] => failNext .eofArray []
      | ']' :: rest => .done () rest
      | ',' :: rest => skipItems fuel rest
      | rest => failNext .expectedArrayCommaOrEnd rest

/-- Passes over at least one member, up to the closing brace. -/
def skipMembers (fuel : Nat) (text : List Char) : Read Unit :=
  match fuel with
  | 0 => failNext .eofObject []
  | fuel + 1 =>
    match skipBlanks text with
    | [] => failNext .eofObject []
    | '"' :: rest =>
      (skipQuoted rest).andThen fun _ rest =>
        (readColon rest).andThen fun _ rest =>
          (skipValue fuel rest).andThen fun _ rest =>
            match skipBlanks rest with
            | [] => failNext .eofObject []
            | '}' :: rest => .done () rest
            | ',' :: rest => skipMembers fuel rest
            | rest => failNext .expectedObjectCommaOrEnd rest
    | rest => failNext .keyNotString rest

end

end NotificationTap.Json
