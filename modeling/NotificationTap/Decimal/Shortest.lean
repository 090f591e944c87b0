import NotificationTap.Decimal.Power

/-!
# The shortest decimal of a double

* `Decimal`: a whole number of digits times a power of ten.
* `Binary`: a positive finite double as a whole number times a power of two.
* `Tie`: which of two equally near decimals is taken.
* `Binary.shortest`: of the decimals that read back as the double, one with the fewest digits, and
  of those the nearest.
-/

namespace NotificationTap

/-- The number `digits · 10 ^ exponent`. -/
structure Decimal where
  /-- The digits, as one number. -/
  digits : Nat
  /-- The power of ten that the last digit counts. -/
  exponent : Int
deriving DecidableEq, Repr

/-- The number `mantissa · 2 ^ exponent`, and whether the next double below is half as far as the
next one above. -/
structure Binary where
  /-- The mantissa. -/
  mantissa : Nat
  /-- The power of two. -/
  exponent : Int
  /-- The mantissa is the least of its binade. -/
  leastOfBinade : Bool
deriving DecidableEq, Repr

/-- Which of two whole numbers is taken for a value halfway between them. -/
inductive Tie where
  /-- The even one. -/
  | toEven
  /-- The larger one. -/
  | up
deriving DecidableEq, Repr

/-- Whether halfway above `low` counts as the next whole number. -/
def Tie.takesNext : Tie → Nat → Bool
  | .toEven, low => low % 2 = 1
  | .up, _ => true

namespace Binary

/-- The magnitude of a finite double. -/
def ofDouble (x : Float) : Binary :=
  let bits : Nat := x.toBits.toNat
  let fraction : Nat := bits % twoTo 52
  let biased : Nat := bits / twoTo 52 % twoTo 11
  if biased = 0 then ⟨fraction, -1074, false⟩
  else ⟨fraction + twoTo 52, (biased : Int) - 1075, fraction = 0 && 1 < biased⟩

/-- The largest power of ten that is at most `num / den`, for a positive quotient: `fuel` bounds
how far below one the search goes. -/
def tenPower (fuel num den : Nat) : Int :=
  if den ≤ num then ((Nat.toDigits 10 (num / den)).length : Int) - 1
  else
    match fuel with
    | 0 => 0
    | fuel + 1 => tenPower fuel (num * 10) den - 1

/-- Whether `count` units of a decimal grid read back as the double whose value is `num / den` of
those units: they lie within half the gap to the next double on their side, the ends included if
the mantissa is even. -/
def readsBack (b : Binary) (num den count : Nat) : Bool :=
  let above := den * count - num
  let below := num - den * count
  let belowScale := if b.leastOfBinade then 4 else 2
  if b.mantissa % 2 = 0 then
    2 * b.mantissa * above ≤ num && belowScale * b.mantissa * below ≤ num
  else
    2 * b.mantissa * above < num && belowScale * b.mantissa * below < num

/-- The nearest point to `num / den` of the two whole numbers around it that read back, if any
does. -/
def nearest? (tie : Tie) (b : Binary) (num den : Nat) : Option Nat :=
  let low := num / den
  let high := low + 1
  if b.readsBack num den low then
    if b.readsBack num den high &&
        (den * high - num < num - den * low ||
          den * high - num = num - den * low && tie.takesNext low) then some high
    else some low
  else if b.readsBack num den high then some high
  else none

/-- Drops zeros at the end of the digits. -/
def stripZeros : Nat → Decimal → Decimal
  | 0, d => d
  | fuel + 1, d => if d.digits % 10 = 0 then stripZeros fuel ⟨d.digits / 10, d.exponent + 1⟩ else d

/-- Tries ever more digits: `remaining` more counts of them, the first with its last digit at the
power `last` of ten. -/
def search (tie : Tie) (b : Binary) (num den : Nat) : Nat → Int → Decimal
  | 0, last => ⟨num * tenTo (-last).toNat / (den * tenTo last.toNat), last⟩
  | remaining + 1, last =>
    match b.nearest? tie (num * tenTo (-last).toNat) (den * tenTo last.toNat) with
    | some count => ⟨count, last⟩
    | none => search tie b num den remaining (last - 1)

/-- The shortest decimal that reads back as the double. Seventeen digits always suffice. -/
def shortest (tie : Tie) (b : Binary) : Decimal :=
  if b.mantissa = 0 then ⟨0, 0⟩
  else
    let num := b.mantissa * twoTo b.exponent.toNat
    let den := twoTo (-b.exponent).toNat
    stripZeros 20 (search tie b num den 17 (tenPower 400 num den))

end Binary

/-- The shortest decimal that reads back as the magnitude of a finite double. -/
def Decimal.ofDouble (tie : Tie) (x : Float) : Decimal := (Binary.ofDouble x).shortest tie

end NotificationTap
