import NotificationTap.Decimal.Shortest

/-!
# The double nearest to a decimal

* `nearestBits`: the bits of the double nearest to a positive quotient. A tie goes to the even
  mantissa, and what is too large becomes infinity.
* `Decimal.toDouble`: the double nearest to a decimal.
-/

namespace NotificationTap

/-- The whole number nearest to a quotient; a tie goes to the even one. -/
def roundQuotient (num den : Nat) : Nat :=
  let low := num / den
  let twice := 2 * (num % den)
  if twice < den ∨ twice = den ∧ low % 2 = 0 then low else low + 1

/-- The bits of infinity. -/
def infinityBits : Nat := 0x7FF * twoTo 52

/-- The bits of the double nearest to `num / den`, both positive. The unit in the last place is
chosen so that the mantissa has 53 bits, or is the least unit there is; a mantissa that rounds up
to one bit more carries into the exponent. -/
def nearestBits (num den : Nat) : Nat :=
  let log : Int := (num.log2 : Int) - den.log2
  let fits := num * twoTo (-log).toNat < den * twoTo log.toNat
  let unit : Int := max (if fits then log - 53 else log - 52) (-1074)
  let mantissa := roundQuotient (num * twoTo (-unit).toNat) (den * twoTo unit.toNat)
  min ((unit + 1074).toNat * twoTo 52 + mantissa) infinityBits

/-- The double nearest to a decimal. Decimals far outside the range of doubles are told by the
place of their first digit. -/
def Decimal.toDouble (d : Decimal) : Float :=
  let leading : Int := (Nat.toDigits 10 d.digits).length + d.exponent - 1
  let bits : Nat :=
    if d.digits = 0 ∨ leading < -400 then 0
    else if 400 < leading then infinityBits
    else nearestBits (d.digits * tenTo d.exponent.toNat) (tenTo (-d.exponent).toNat)
  Float.ofBits bits.toUInt64

end NotificationTap
