import FieldText.Number.Double
import FieldText.Text.DigitClass
import FieldText.Text.Numeral

/-!
Reading a floating-point number from text.  White space around the number is allowed, decimal digits
may come from any script, and single underscores may separate digits.  The number itself is a word
for an infinity or for no number, or a decimal with an optional point and an optional exponent.  The
value is rounded correctly, and a decimal beyond the range of the format becomes an infinity.
-/

namespace FieldText
namespace Literal

/-- White space that may surround a number: all blank characters but the separators of ASCII. -/
def isSpace (c : Char) : Bool := Text.isBlank c && !(0x1C ≤ c.toNat && c.toNat ≤ 0x1F)

def stripSpace (text : Text) : Text := ((text.dropWhile isSpace).reverse.dropWhile isSpace).reverse

def beginsWithDigit : Text → Bool
  | c :: _ => c.isDigit
  | [] => false

/-- Remove the underscores, each of which must stand between two digits.  The flag tells whether the
character in front of the text is a digit. -/
def withoutUnderscores? : Bool → Text → Option Text
  | _, [] => some []
  | afterDigit, c :: rest =>
    if c = '_' then
      if afterDigit && beginsWithDigit rest then withoutUnderscores? false rest else none
    else (withoutUnderscores? c.isDigit rest).map (c :: ·)

/-- Take a sign off the front of a text; the flag tells whether it was a minus. -/
def takeSign : Text → Bool × Text
  | '-' :: rest => (true, rest)
  | '+' :: rest => (false, rest)
  | rest => (false, rest)

/-- A decimal: its digits without the point, and the power of ten that they are multiplied by. -/
structure Decimal where
  digits : Text
  exponent : Int
  deriving DecidableEq, Repr

/-- Read what follows the digits of a decimal: nothing, or an exponent. -/
def readExponent? : Text → Option Int
  | [] => some 0
  | mark :: rest =>
    if mark = 'e' || mark = 'E' then
      let (negative, digits) := takeSign rest
      if Numeral.isNumeral digits then
        some (if negative then -(Numeral.value digits : Int) else Numeral.value digits)
      else none
    else none

/-- Read a decimal without sign. -/
def readDecimal? (text : Text) : Option Decimal :=
  let whole := Numeral.leading text
  let (fraction, rest) :=
    match Numeral.afterLeading text with
    | '.' :: rest => (Numeral.leading rest, Numeral.afterLeading rest)
    | rest => ([], rest)
  if (whole ++ fraction).isEmpty then none
  else (readExponent? rest).map fun exponent => ⟨whole ++ fraction, exponent - fraction.length⟩

/-- The number of digits of a decimal in front of its point, when leading zeros are not counted. -/
def Decimal.magnitude (decimal : Decimal) : Int :=
  ((decimal.digits.dropWhile (· = '0')).length : Int) + decimal.exponent

/-- The floating-point number nearest to a decimal.  The two bounds on the magnitude only spare the
work on numbers that are far outside the range of the format. -/
def Decimal.toDouble (negative : Bool) (decimal : Decimal) : Double :=
  let value := Numeral.value decimal.digits
  if value = 0 then Double.zero negative
  else if 400 < decimal.magnitude then .infinite negative
  else if decimal.magnitude < -400 then Double.zero negative
  else Double.ofDecimal negative value decimal.exponent

/-- Read the part of a number behind its sign. -/
def readUnsigned? (negative : Bool) (text : Text) : Option Double :=
  let word := Text.lower text
  if word == "inf".toList || word == "infinity".toList then some (.infinite negative)
  else if word == "nan".toList then some .nan
  else (readDecimal? text).map (Decimal.toDouble negative)

def read? (text : Text) : Option Double :=
  (withoutUnderscores? false ((stripSpace text).map DigitClass.toPlain)).bind fun plain =>
    let (negative, rest) := takeSign plain
    readUnsigned? negative rest

end Literal
end FieldText
