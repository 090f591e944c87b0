import NotificationTap.Decimal.Shortest

/-!
# Layouts of a decimal

* `Decimal.positional`: digits around a point, with at least one digit on either side.
* `Decimal.scientific`: one digit before the point and a signed power of ten; no point after a
  single digit.
* `jsonText`, `plainText`: the two spellings of a double in the program's texts.
-/

namespace NotificationTap

namespace Decimal

/-- The digits as text. -/
def digitText (d : Decimal) : List Char := Nat.toDigits 10 d.digits

/-- The power of ten that the first digit counts. -/
def leading (d : Decimal) : Int := d.digitText.length + d.exponent - 1

/-- Digits around a point, at least one on either side. -/
def positional (d : Decimal) : List Char :=
  let text := d.digitText
  if 0 ≤ d.exponent then text ++ List.replicate d.exponent.toNat '0' ++ ['.', '0']
  else if 0 ≤ d.leading then
    let whole := d.leading.toNat + 1
    text.take whole ++ '.' :: text.drop whole
  else '0' :: '.' :: List.replicate (-d.leading - 1).toNat '0' ++ text

/-- One digit before the point, the others after it, and the power of ten with its sign. -/
def scientific (d : Decimal) : List Char :=
  let power :=
    if 0 ≤ d.leading then '+' :: Nat.toDigits 10 d.leading.toNat
    else '-' :: Nat.toDigits 10 (-d.leading).toNat
  match d.digitText with
  | [] => 'e' :: power
  | [digit] => digit :: 'e' :: power
  | digit :: others => digit :: '.' :: others ++ 'e' :: power

/-- Numbers from 10⁻⁵ up to, and not including, 10¹⁶ are written around a point, others with a
power of ten. -/
def compact (d : Decimal) : List Char :=
  if -5 ≤ d.leading ∧ d.leading < 16 then d.positional else d.scientific

end Decimal

/-- A sign in front of a negative number, negative zero included. -/
def signed (x : Float) (magnitude : List Char) : List Char :=
  if x.toBits.toNat / twoTo 63 = 1 then '-' :: magnitude else magnitude

/-- A finite double in a JSON text. Of two equally near decimals it has the one that ends in an even
digit. -/
def jsonText (x : Float) : List Char := signed x (Decimal.ofDouble .toEven x).compact

/-- Any double in a message: no power of ten, whatever its size. Of two equally near decimals it has
the one farther from zero. -/
def plainText (x : Float) : List Char :=
  if x.isNaN then ['N', 'a', 'N']
  else if x.isInf then signed x ['i', 'n', 'f']
  else signed x (Decimal.ofDouble .up x).positional

end NotificationTap
