/-!
Floating-point numbers of double precision, as exact values: a sign, a mantissa below `2 ^ 53` and a
binary exponent, or an infinity, or no number.  The one way to make a finite number is to round a
quotient of natural numbers to the nearest number of the format, with a half going to the even
mantissa, so reading, scaling and converting are all correctly rounded.
-/

namespace FieldText

inductive Double where
  | finite (negative : Bool) (mantissa : Nat) (exponent : Int)
  | infinite (negative : Bool)
  | nan
  deriving DecidableEq, Repr

namespace Double

/-- The natural number nearest to a quotient; of two nearest ones, the even one. -/
def nearest (numerator denominator : Nat) : Nat :=
  let whole := numerator / denominator
  let twice := 2 * (numerator % denominator)
  if twice < denominator then whole
  else if denominator < twice then whole + 1
  else whole + whole % 2

/-- Divide a quotient by a power of a base; a negative exponent multiplies. -/
def unscale (base : Nat) (exponent : Int) (numerator denominator : Nat) : Nat × Nat :=
  if 0 ≤ exponent then (numerator, denominator * Nat.pow base exponent.toNat)
  else (numerator * Nat.pow base (-exponent).toNat, denominator)

def precision : Nat := 53

def leastExponent : Int := -1074

def greatestExponent : Int := 971

def zero (negative : Bool) : Double := finite negative 0 leastExponent

/-- The exponent at which a positive quotient has a mantissa of full precision, or the least one. -/
def exponentFor (numerator denominator : Nat) : Int :=
  let estimate : Int :=
    max ((Nat.log2 numerator : Int) - (Nat.log2 denominator : Int) - (precision : Int)) leastExponent
  let (scaled, divisor) := unscale 2 estimate numerator denominator
  if Nat.pow 2 precision ≤ scaled / divisor then estimate + 1 else estimate

/-- The number nearest to a quotient, with the given sign. -/
def ofQuotient (negative : Bool) (numerator denominator : Nat) : Double :=
  if numerator = 0 then zero negative
  else
    let exponent := exponentFor numerator denominator
    let (scaled, divisor) := unscale 2 exponent numerator denominator
    let mantissa := nearest scaled divisor
    let (mantissa, exponent) :=
      if mantissa = Nat.pow 2 precision then (Nat.pow 2 (precision - 1), exponent + 1)
      else (mantissa, exponent)
    if greatestExponent < exponent then infinite negative else finite negative mantissa exponent

/-- The number nearest to a multiple of a power of ten. -/
def ofDecimal (negative : Bool) (units : Nat) (exponent : Int) : Double :=
  let (numerator, denominator) := unscale 10 (-exponent) units 1
  ofQuotient negative numerator denominator

def ofInt (i : Int) : Double := ofQuotient (decide (i < 0)) i.natAbs 1

def isFinite : Double → Bool
  | finite _ _ _ => true
  | _ => false

/-- The magnitude of a finite number as a quotient. -/
def quotient (mantissa : Nat) (exponent : Int) : Nat × Nat := unscale 2 (-exponent) mantissa 1

/-- The number a hundred times as large, rounded. -/
def timesHundred : Double → Double
  | finite negative mantissa exponent =>
    let (numerator, denominator) := quotient mantissa exponent
    ofQuotient negative (100 * numerator) denominator
  | other => other

/-- Whether a number is anything but a zero. -/
def isNonzero : Double → Bool
  | finite _ mantissa _ => mantissa != 0
  | _ => true

/-- Whether a number is below zero, which no zero is. -/
def isNegative : Double → Bool
  | finite negative mantissa _ => negative && mantissa != 0
  | infinite negative => negative
  | nan => false

/-- The leading bit of a full mantissa, which the interchange format leaves out. -/
def hiddenBit : Nat := Nat.pow 2 (precision - 1)

/-- The bit that is set for the negative numbers. -/
def signBit : Nat := Nat.pow 2 63

/-- The bits of the interchange format, as a natural number below `2 ^ 64`. -/
def bits : Double → Nat
  | finite negative mantissa exponent =>
    let sign := if negative then signBit else 0
    if mantissa < hiddenBit then sign + mantissa
    else
      sign + (exponent - leastExponent + 1).toNat * hiddenBit + (mantissa - hiddenBit)
  | infinite negative => (if negative then signBit else 0) + 2047 * hiddenBit
  | nan => 2047 * hiddenBit + hiddenBit / 2

end Double
end FieldText
