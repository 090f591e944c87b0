import NotificationTap.Decimal.Nearest
import NotificationTap.Json.Basic
import NotificationTap.Json.Failure

/-!
# JSON numbers

* `Json.readNumber`: reads a number, from after its minus sign if it has one. An integer that fits
  64 bits is exact. A double is its leading digits, as many as fit 64 bits, scaled by one power of
  ten; that is within a few units of the last place, and not always the nearest double.
* `Json.skipNumber`: passes over a number that nobody needs, whatever its size.
* `Json.Number.digits`: how an integer is written.
-/

namespace NotificationTap.Json

/-- The value of a decimal digit. -/
def digitValue (c : Char) : Nat := c.toNat - '0'.toNat

/-- The largest unsigned 64-bit number. -/
def maxSignificand : Nat := twoTo 64 - 1

/-- The largest exponent that is read in full. -/
def maxExponent : Nat := twoTo 31 - 1

/-- Appends digits to a number as long as it stays within `limit`; what is left starts with the
digit that does not fit, or after the last digit. -/
def absorb (limit acc : Nat) : List Char → Nat × List Char
  | [] => (acc, [])
  | c :: rest =>
    if c.isDigit then
      if acc * 10 + digitValue c ≤ limit then absorb limit (acc * 10 + digitValue c) rest
      else (acc, c :: rest)
    else (acc, c :: rest)

/-- Whether a text starts with a digit. -/
def startsWithDigit : List Char → Bool
  | c :: _ => c.isDigit
  | [] => false

/-- A text without the digits in front. -/
def dropDigits (text : List Char) : List Char := text.dropWhile Char.isDigit

/-- How many digits stand in front. -/
def countDigits (text : List Char) : Nat := (text.takeWhile Char.isDigit).length

/-! ## Doubles -/

/-- A power of ten up to 10³⁰⁸, as the nearest double. -/
def powerOfTen (exponent : Nat) : Float := Decimal.toDouble ⟨1, exponent⟩

/-- `x · 10 ^ exponent`, scaled at once if the power is a double and in steps of 10⁻³⁰⁸ if it is too
small for one. Nothing if the result is too large for a double. -/
def scale? : Nat → Float → Int → Option Float
  | 0, x, _ => some x
  | fuel + 1, x, exponent =>
    if exponent.natAbs ≤ 308 then
      if 0 ≤ exponent then
        let y := x * powerOfTen exponent.natAbs
        if y.isInf then none else some y
      else some (x / powerOfTen exponent.natAbs)
    else if x == 0 then some x
    else if 0 ≤ exponent then none
    else scale? fuel (x / powerOfTen 308) (exponent + 308)

/-- The double `± significand · 10 ^ exponent`, read up to `rest`. -/
def finishDouble (negative : Bool) (significand : Nat) (exponent : Int) (rest : List Char) :
    Read Number :=
  match scale? (exponent.natAbs / 308 + 2) significand.toUInt64.toFloat exponent with
  | some x => .done (.double (if negative then -x else x)) rest
  | none => failAt .numberOutOfRange rest

/-- The exponent of a double, from after its `e`. One that is too large leaves zero if it is
negative or the significand is zero, and is out of range otherwise. -/
def readExponent (negative : Bool) (significand : Nat) (exponent : Int) (text : List Char) :
    Read Number :=
  let (down, text) : Bool × List Char :=
    match text with
    | '+' :: rest => (false, rest)
    | '-' :: rest => (true, rest)
    | text => (false, text)
  match text with
  | [] => failAt .eofValue []
  | c :: _ =>
    if c.isDigit then
      let (power, rest) := absorb maxExponent 0 text
      if startsWithDigit rest then
        if significand ≠ 0 ∧ !down then failNext .numberOutOfRange rest
        else .done (.double (if negative then -0.0 else 0.0)) (dropDigits rest)
      else
        finishDouble negative significand (if down then exponent - power else exponent + power) rest
    else failNext .invalidNumber text

/-- The end of a double after its digits: an exponent or nothing. -/
def readScale (negative : Bool) (significand : Nat) (exponent : Int) : List Char → Read Number
  | 'e' :: rest => readExponent negative significand exponent rest
  | 'E' :: rest => readExponent negative significand exponent rest
  | rest => finishDouble negative significand exponent rest

/-- The digits after the point. Those that do not fit the significand any more are dropped. -/
def readFraction (negative : Bool) (significand : Nat) (exponent : Int) (text : List Char) :
    Read Number :=
  if startsWithDigit text then
    let (digits, rest) := absorb maxSignificand significand text
    readScale negative digits (exponent - (countDigits text - countDigits rest : Nat))
      (dropDigits rest)
  else failNext (if text.isEmpty then .eofValue else .invalidNumber) text

/-- An integer that fits: a negative one becomes a double if it is below -2⁶³, or zero. -/
def exactInteger (negative : Bool) (significand : Nat) : Number :=
  if !negative then .integer significand
  else if significand ≠ 0 ∧ significand ≤ twoTo 63 then .integer (-significand)
  else .double (-significand.toUInt64.toFloat)

/-- What follows the whole digits, `extra` of which did not fit the significand. -/
def readTail (negative : Bool) (significand extra : Nat) : List Char → Read Number
  | '.' :: rest => readFraction negative significand extra rest
  | 'e' :: rest => readExponent negative significand extra rest
  | 'E' :: rest => readExponent negative significand extra rest
  | rest =>
    if extra = 0 then .done (exactInteger negative significand) rest
    else finishDouble negative significand extra rest

/-- A number, from after its minus sign. A leading zero stands alone. -/
def readNumber (negative : Bool) : List Char → Read Number
  | [] => failAt .eofValue []
  | c :: rest =>
    if c = '0' then
      if startsWithDigit rest then failNext .invalidNumber rest else readTail negative 0 0 rest
    else if c.isDigit then
      let (significand, rest) := absorb maxSignificand 0 (c :: rest)
      readTail negative significand (countDigits rest) (dropDigits rest)
    else failNext .invalidNumber (c :: rest)

/-! ## Passing over a number -/

/-- An exponent that nobody needs, from after its `e`. -/
def skipExponent (text : List Char) : Read Unit :=
  let text : List Char :=
    match text with
    | '+' :: rest => rest
    | '-' :: rest => rest
    | text => text
  if startsWithDigit text then .done () (dropDigits text) else failNext .invalidNumber text

/-- The digits after the point of a number that nobody needs. -/
def skipFraction (text : List Char) : Read Unit :=
  if startsWithDigit text then
    match dropDigits text with
    | 'e' :: rest => skipExponent rest
    | 'E' :: rest => skipExponent rest
    | rest => .done () rest
  else failNext .invalidNumber text

/-- What follows the whole digits of a number that nobody needs. -/
def skipTail : List Char → Read Unit
  | '.' :: rest => skipFraction rest
  | 'e' :: rest => skipExponent rest
  | 'E' :: rest => skipExponent rest
  | rest => .done () rest

/-- A number that nobody needs, from after its minus sign. -/
def skipNumber : List Char → Read Unit
  | [] => failNext .invalidNumber []
  | c :: rest =>
    if c = '0' then
      if startsWithDigit rest then failNext .invalidNumber rest else skipTail rest
    else if c.isDigit then skipTail (dropDigits rest)
    else failNext .invalidNumber (c :: rest)

/-! ## Writing an integer -/

/-- The digits of an integer, behind a minus sign if it is negative. -/
def integerText (n : Int) : List Char :=
  if n < 0 then '-' :: Nat.toDigits 10 n.natAbs else Nat.toDigits 10 n.natAbs

end NotificationTap.Json
