import FieldText.Number.FixedPoint
import FieldText.Repetition
import FieldText.Scalar.Basic
import FieldText.Scalar.Count

/-!
The rule for floating-point numbers.  Options select plain, exponent or percent notation; a count at
the end is the number of fraction digits.  Percentages are a hundred times the number, and rounding
comes after the multiplication: an integer is multiplied exactly, a floating-point number within its
format.
-/

namespace FieldText

/-- How a floating-point number is written. -/
inductive FloatStyle where
  | fixed
  | exponent (capital : Bool)
  | percent
  deriving DecidableEq, Repr

namespace FloatStyle

/-- Cut trimmed options into a style and the text of the count behind it. -/
def cut : Text → FloatStyle × Text
  | 'P' :: count => (percent, count)
  | 'p' :: count => (percent, count)
  | 'E' :: count => (exponent true, count)
  | 'e' :: count => (exponent false, count)
  | 'F' :: count => (fixed, count)
  | 'f' :: count => (fixed, count)
  | count => (fixed, count)

/-- The number of fraction digits when none is asked for. -/
def defaultPlaces : FloatStyle → Nat
  | exponent _ => 6
  | _ => 2

def factor : FloatStyle → Int
  | percent => 100
  | _ => 1

/-- The number that a style shows in place of a number. -/
def scale (value : Double) : FloatStyle → Double
  | percent => value.timesHundred
  | _ => value

def digits (places : Nat) (value : Double) : FloatStyle → Text
  | exponent false => value.scientific places
  | exponent true => (value.scientific places).map Char.toUpper
  | _ => value.fixed places

def ending : FloatStyle → Text
  | percent => ['%']
  | _ => []

def write (places : Nat) (value : Double) (style : FloatStyle) : Text :=
  style.digits places (style.scale value) ++ style.ending

/-- The text of a complex number in a style: both parts, the second with a sign in any case. -/
def writeComplex (places : Nat) (real imaginary : Double) (style : FloatStyle) : Text :=
  let second := style.digits places (style.scale imaginary)
  let sign := if second.head? = some '-' then [] else ['+']
  style.digits places (style.scale real) ++ sign ++ second ++ 'j' :: style.ending

end FloatStyle

/-- The largest number of fraction digits: `2 ^ 31 - 1`. -/
def placesLimit : Nat := 0x7FFFFFFF

/-- Go on with the style and the number of fraction digits that options ask for. -/
def FloatStyle.select (options : Text) (next : FloatStyle → Nat → Rendering) : Rendering :=
  let (style, count) := FloatStyle.cut (Text.trim options)
  Count.withCount .float count fun places => next style (places.getD style.defaultPlaces)

/-- Write a text with a number of fraction digits, unless that number is out of bounds. -/
def FloatStyle.writeWithin (places : Nat) (text : Nat → Text) : Rendering :=
  if placesLimit < places then Rendering.fail .precisionTooLarge else Rendering.write (text places)

namespace Scalar

def renderFloat (value : Double) (options : Text) : Rendering :=
  FloatStyle.select options fun style places =>
    FloatStyle.writeWithin places fun places => style.write places value

/-- Render an integer as if it were a floating-point number.  It is multiplied exactly before it is
converted, and a number of digits that cannot even be counted is refused before the conversion. -/
def renderIntegerAsFloat (value : Int) (options : Text) : Rendering :=
  FloatStyle.select options fun style places =>
    if Repetition.countLimit < places then Rendering.fail .precisionTooLarge
    else
      let number := Double.ofInt (style.factor * value)
      if number.isFinite then
        FloatStyle.writeWithin places fun places => style.digits places number ++ style.ending
      else Rendering.fail .numberOutOfRange

end Scalar

namespace Subject

/-- Render a value by the rule for floating-point numbers.  The options are read in any case; text has
none of the notations that they select, and other values have no notation at all. -/
def renderAsFloat : Subject → Text → Rendering
  | scalar (.float value), options => Scalar.renderFloat value options
  | scalar (.integer value), options => Scalar.renderIntegerAsFloat value options
  | scalar (.boolean value), options => Scalar.renderIntegerAsFloat value.toInt options
  | scalar (.text _), options =>
    FloatStyle.select options fun _ _ => Rendering.fail .unsuitableNotation
  | complex real imaginary, options =>
    FloatStyle.select options fun style places =>
      FloatStyle.writeWithin places fun places => style.writeComplex places real imaginary
  | _, options => FloatStyle.select options fun _ _ => Rendering.fail .unsuitableValue

end Subject
end FieldText
