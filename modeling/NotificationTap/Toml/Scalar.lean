import NotificationTap.Decimal.Nearest
import NotificationTap.Toml.Basic
import NotificationTap.Toml.Lexeme

/-!
# TOML numbers, dates and times

* `Toml.dateTime?`: the end of a date, a time, or both. Nothing else of them is kept.
* `Toml.double?`: a number with a fraction or an exponent, or an infinity or not-a-number.
* `Toml.integer?`: an integer that fits 64 bits with sign, in any of four bases.
* `Toml.number?`: the first of these that fits. What is left over after it is for the caller to
  refuse, as in `1979-13-01` or `007`.
-/

namespace NotificationTap.Toml

open Text (hexDigit?)

/-! ## Digits -/

/-- Further digits, each with at most one underscore in front. -/
def moreDigits? (isDigit : Char → Bool) : List Char → Option (List Char × List Char)
  | [] => some ([], [])
  | c :: rest =>
    if isDigit c then consChar c (moreDigits? isDigit rest)
    else if c = '_' then
      match rest with
      | [] => none
      | d :: rest => if isDigit d then consChar d (moreDigits? isDigit rest) else none
    else some ([], c :: rest)

/-- One digit or more, with single underscores between them. -/
def digits? (isDigit : Char → Bool) : List Char → Option (List Char × List Char)
  | [] => none
  | c :: rest => if isDigit c then consChar c (moreDigits? isDigit rest) else none

/-- The digits of a whole number: a leading zero stands alone. -/
def wholeDigits? : List Char → Option (List Char × List Char)
  | '0' :: rest => some (['0'], rest)
  | text => digits? Char.isDigit text

/-- Whether a minus sign stands here, and the text after a sign. -/
def sign : List Char → Bool × List Char
  | '-' :: rest => (true, rest)
  | '+' :: rest => (false, rest)
  | text => (false, text)

/-- The number that digits of a base stand for. -/
def valueOf (base : Nat) (digits : List Char) : Nat :=
  digits.foldl (fun n c => n * base + (hexDigit? c).getD 0) 0

/-! ## Integers -/

/-- Whether a character is a digit of a base up to sixteen. -/
def isDigitOf (base : Nat) (c : Char) : Bool := (hexDigit? c).any (· < base)

/-- An integer of another base than ten, from after its letter. -/
def basedInteger? (base : Nat) (text : List Char) : Option (Int × List Char) := do
  let (digits, rest) ← digits? (isDigitOf base) text
  let n := valueOf base digits
  if n < twoTo 63 then return ((n : Int), rest) else none

/-- An integer that fits 64 bits with sign. -/
def integer? : List Char → Option (Int × List Char)
  | '0' :: 'x' :: rest => basedInteger? 16 rest
  | '0' :: 'o' :: rest => basedInteger? 8 rest
  | '0' :: 'b' :: rest => basedInteger? 2 rest
  | text => do
    let (negative, text) := sign text
    let (digits, rest) ← wholeDigits? text
    let n := valueOf 10 digits
    if negative then if n ≤ twoTo 63 then return (-(n : Int), rest) else none
    else if n < twoTo 63 then return ((n : Int), rest)
    else none

/-! ## Doubles -/

/-- The power of ten after an `e`, if there is one here. -/
def exponent? : List Char → Option (Int × List Char)
  | c :: rest => do
    if c ≠ 'e' ∧ c ≠ 'E' then none
    let (negative, rest) := sign rest
    let (digits, rest) ← digits? Char.isDigit rest
    return (if negative then -(valueOf 10 digits : Int) else valueOf 10 digits, rest)
  | [] => none

/-- The digits after a point and a power of ten; one of the two has to be there. -/
def fraction? : List Char → Option ((List Char × Int) × List Char)
  | '.' :: rest => do
    let (digits, rest) ← digits? Char.isDigit rest
    match rest with
    | 'e' :: _ | 'E' :: _ => do
      let (power, rest) ← exponent? rest
      return ((digits, power), rest)
    | rest => return ((digits, 0), rest)
  | text => do
    let (power, rest) ← exponent? text
    return (([], power), rest)

/-- A double with its sign. Only a positive one may not be too large. -/
def finite? (text : List Char) : Option (Float × List Char) := do
  let (negative, text) := sign text
  let (whole, rest) ← wholeDigits? text
  let ((fraction, power), rest) ← fraction? rest
  let x := Decimal.toDouble ⟨valueOf 10 (whole ++ fraction), power - fraction.length⟩
  if negative then return (-x, rest)
  else if x.isInf then none
  else return (x, rest)

/-- An infinity or not-a-number, by name. -/
def special? (text : List Char) : Option (Float × List Char) :=
  let (negative, text) := sign text
  match text with
  | 'i' :: 'n' :: 'f' :: rest => some (if negative then -1 / 0 else 1 / 0, rest)
  | 'n' :: 'a' :: 'n' :: rest => some (0 / 0, rest)
  | _ => none

/-- A double. -/
def double? (text : List Char) : Option (Float × List Char) := (finite? text).or (special? text)

/-! ## Dates and times -/

/-- A number of exactly `count` digits. -/
def fixedDigits? (count : Nat) (text : List Char) : Option (Nat × List Char) :=
  let digits := text.take count
  if digits.length = count ∧ digits.all Char.isDigit then some (valueOf 10 digits, text.drop count)
  else none

/-- A number of two digits from `low` to `high`. -/
def twoDigits? (low high : Nat) (text : List Char) : Option (Nat × List Char) := do
  let (n, rest) ← fixedDigits? 2 text
  if low ≤ n ∧ n ≤ high then return (n, rest) else none

/-- The text after one character. -/
def expect? (c : Char) : List Char → Option (List Char)
  | d :: rest => if d = c then some rest else none
  | [] => none

/-- The days of a month. -/
def daysIn (year month : Nat) : Nat :=
  if month = 2 then
    if year % 4 = 0 ∧ (year % 100 ≠ 0 ∨ year % 400 = 0) then 29 else 28
  else if month = 4 ∨ month = 6 ∨ month = 9 ∨ month = 11 then 30
  else 31

/-- The text after a date. -/
def date? (text : List Char) : Option (List Char) := do
  let (year, rest) ← fixedDigits? 4 text
  let (month, rest) ← twoDigits? 1 12 (← expect? '-' rest)
  let (day, rest) ← twoDigits? 1 31 (← expect? '-' rest)
  if day ≤ daysIn year month then return rest else none

/-- The text after a time of day. A minute may have a leap second. -/
def time? (text : List Char) : Option (List Char) := do
  let (_, rest) ← twoDigits? 0 23 text
  let (_, rest) ← twoDigits? 0 59 (← expect? ':' rest)
  let (_, rest) ← twoDigits? 0 60 (← expect? ':' rest)
  match rest with
  | '.' :: c :: rest => if c.isDigit then return rest.dropWhile Char.isDigit else none
  | rest => return rest

/-- The text after an offset from universal time, if there is one here. -/
def skipOffset (text : List Char) : List Char :=
  let offset? : Option (List Char) :=
    match text with
    | 'Z' :: rest => some rest
    | 'z' :: rest => some rest
    | c :: rest => do
      if c ≠ '+' ∧ c ≠ '-' then none
      let (_, rest) ← twoDigits? 0 23 rest
      let (_, rest) ← twoDigits? 0 59 (← expect? ':' rest)
      return rest
    | [] => none
  offset?.getD text

/-- The text after a date, a time, or a date and a time with or without an offset. -/
def dateTime? (text : List Char) : Option (List Char) :=
  match date? text with
  | none => time? text
  | some rest =>
    match rest with
    | c :: rest' =>
      if c = 'T' ∨ c = 't' ∨ c = ' ' then some (((time? rest').map skipOffset).getD rest)
      else some rest
    | [] => some rest

/-- A number, a date or a time. -/
def number? (text : List Char) : Option (Value × List Char) :=
  ((dateTime? text).map fun rest => (Value.dateTime, rest)).or
    (((double? text).map fun (x, rest) => (.double x, rest)).or
      ((integer? text).map fun (n, rest) => (.integer n, rest)))

end NotificationTap.Toml
