import FieldText.Number.FixedPoint

/-!
The shortest decimal text of a floating-point number: of all decimals that read back as the number,
one with the fewest digits, and of those the nearest.  A decimal with a given number of digits lies
on a grid of multiples of a power of ten.  What reads back fills an interval around the number, so if
any point of a grid reads back, then so does one of the two between which the number lies, and only
these have to be tried.
-/

namespace FieldText
namespace Double

/-- The neighbour of a positive quotient on a grid of powers of ten that reads back as the nearest
positive number of the format: the nearer one if it does, or else the other one. -/
def neighbour? (numerator denominator : Nat) (exponent : Int) : Option Nat :=
  let target := ofQuotient false numerator denominator
  let (scaled, divisor) := unscale 10 exponent numerator denominator
  let below := scaled / divisor
  let near := nearest scaled divisor
  let far := if near = below then below + 1 else below
  [near, far].find? fun units => ofDecimal false units exponent = target

/-- The number of digits that is always enough to read back. -/
def sufficientDigits : Nat := 17

/-- The digits of the shortest decimal of a positive quotient, without zeros at the end, and the
exponent of the first of them. -/
def shortestDigits (numerator denominator : Nat) : Text × Int :=
  let first := decimalExponent numerator denominator
  let found := (List.range sufficientDigits).findSome? fun (more : Nat) =>
    (neighbour? numerator denominator (first - more)).map fun units => (units, first - more)
  let (units, exponent) := found.getD (0, first)
  let digits := Numeral.decimal units
  let stripped := (digits.reverse.dropWhile (· = '0')).reverse
  (stripped, exponent + digits.length - 1)

/-- The least exponent of a first digit in front of which zeros are written out. -/
def leastPlainExponent : Int := -4

/-- The exponent of a first digit from which on the exponent is written out. -/
def plainExponentLimit : Int := 16

/-- Digits in exponent notation, with a point only if there is more than one. -/
def layScientific (digits : Text) (first : Int) : Text :=
  withPoint (digits.length - 1) digits ++ 'e' :: exponentText first

/-- Digits in plain notation, with at least one digit on both sides of the point. -/
def layPlain (digits : Text) (first : Int) : Text :=
  let led := List.replicate (-first).toNat '0' ++ digits
  let whole := first.toNat + 1
  withPoint (max 1 (led.length - whole)) (Text.padRight (whole + 1) '0' led)

/-- The shortest text of the magnitude of a number. -/
def shortestMagnitude : Double → Text
  | finite _ mantissa exponent =>
    if mantissa = 0 then layPlain ['0'] 0
    else
      let (numerator, denominator) := quotient mantissa exponent
      let (digits, first) := shortestDigits numerator denominator
      if leastPlainExponent ≤ first && first < plainExponentLimit then layPlain digits first
      else layScientific digits first
  | infinite _ => infinityWord
  | nan => nanWord

def isSigned : Double → Bool
  | finite negative _ _ => negative
  | infinite negative => negative
  | nan => false

/-- The shortest text that reads back as a number. -/
def shortest (value : Double) : Text := signText value.isSigned ++ value.shortestMagnitude

end Double
end FieldText
