import FieldText.Number.Double
import FieldText.Text.Numeral

/-!
Decimal texts of floating-point numbers with a fixed number of fraction digits, in plain and in
exponent notation.  The digits are those of the exact value, rounded to the nearest with a half
going to the even digit.
-/

namespace FieldText
namespace Double

/-- The sign in front of a number; a negative zero keeps its sign. -/
def signText (negative : Bool) : Text := if negative then ['-'] else []

def infinityWord : Text := ['i', 'n', 'f']

def nanWord : Text := ['n', 'a', 'n']

/-- Put a decimal point in front of the last digits, when there are to be any behind it. -/
def withPoint (places : Nat) (digits : Text) : Text :=
  let cut := digits.length - places
  if places = 0 then digits else digits.take cut ++ '.' :: digits.drop cut

/-- Plain notation with a number of fraction digits. -/
def fixed (places : Nat) : Double → Text
  | finite negative mantissa exponent =>
    let (numerator, denominator) := quotient mantissa exponent
    let units := nearest (numerator * Nat.pow 10 places) denominator
    signText negative ++ withPoint places (Text.padLeft (places + 1) '0' (Numeral.decimal units))
  | infinite negative => signText negative ++ infinityWord
  | nan => nanWord

/-- The decimal exponent of a positive quotient: the position of its first digit. -/
def decimalExponent (numerator denominator : Nat) : Int :=
  if denominator ≤ numerator then ((Numeral.decimal (numerator / denominator)).length : Int) - 1
  else
    let ceiling := (denominator + numerator - 1) / numerator
    Int.negOfNat (Numeral.decimal (ceiling - 1)).length

/-- An exponent: a sign and at least two digits. -/
def exponentText (exponent : Int) : Text :=
  (if exponent < 0 then '-' else '+') ::
    Text.padLeft 2 '0' (Numeral.decimal exponent.natAbs)

/-- Exponent notation with a number of fraction digits. -/
def scientific (places : Nat) : Double → Text
  | finite negative mantissa exponent =>
    if mantissa = 0 then
      signText negative ++ withPoint places (List.replicate (places + 1) '0') ++
        'e' :: exponentText 0
    else
      let (numerator, denominator) := quotient mantissa exponent
      let first := decimalExponent numerator denominator
      let (scaled, divisor) := unscale 10 (first - places) numerator denominator
      let units := nearest scaled divisor
      let (units, first) :=
        if units = Nat.pow 10 (places + 1) then (Nat.pow 10 places, first + 1) else (units, first)
      signText negative ++ withPoint places (Numeral.decimal units) ++ 'e' :: exponentText first
  | infinite negative => signText negative ++ infinityWord
  | nan => nanWord

end Double
end FieldText
