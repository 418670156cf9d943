import FieldText.Number.Shortest
import FieldText.Repetition
import FieldText.Scalar.Basic
import FieldText.Scalar.Count

/-!
The rule for integers.  Options select base ten, plain or in groups of three, or base sixteen, with
or without its mark and in small or capital letters; a count at the end is the least number of
digits.  The padding zeros count as digits, so they are grouped too.  A floating-point number is
written by the same rule with its shortest text in place of digits, and has none in base sixteen.
-/

namespace FieldText

inductive IntegerStyle where
  | decimal (grouped : Bool)
  | hexadecimal (capital marked : Bool)
  deriving DecidableEq, Repr

namespace IntegerStyle

/-- Read the mark that may follow the letter of base sixteen. -/
def cutHexadecimal (capital : Bool) : Text → IntegerStyle × Text
  | '-' :: count => (hexadecimal capital false, count)
  | '+' :: count => (hexadecimal capital true, count)
  | count => (hexadecimal capital true, count)

/-- Cut trimmed options into a style and the text of the count behind it. -/
def cut : Text → IntegerStyle × Text
  | 'x' :: rest => cutHexadecimal false rest
  | 'X' :: rest => cutHexadecimal true rest
  | 'N' :: count => (decimal true, count)
  | 'n' :: count => (decimal true, count)
  | 'D' :: count => (decimal false, count)
  | 'd' :: count => (decimal false, count)
  | count => (decimal false, count)

/-- The digits of a magnitude, without padding.  Only base ten is limited. -/
def digits (magnitude : Nat) : IntegerStyle → Except Fault Text
  | decimal _ =>
    match Numeral.write? magnitude with
    | some digits => .ok digits
    | none => .error .numeralTooLong
  | hexadecimal false _ => .ok (Numeral.hexadecimal magnitude)
  | hexadecimal true _ => .ok ((Numeral.hexadecimal magnitude).map Char.toUpper)

/-- What stands for the digits of a floating-point number. -/
def shortestDigits (value : Double) : IntegerStyle → Except Fault Text
  | decimal _ => .ok value.shortestMagnitude
  | hexadecimal _ _ => .error .unsuitableNotation

/-- Put commas between groups of three digits, in a text that is written backwards. -/
def groupBackwards : Text → Text
  | a :: b :: c :: d :: rest => a :: b :: c :: ',' :: groupBackwards (d :: rest)
  | short => short

/-- Put commas between groups of three digits, counted from the right. -/
def group (digits : Text) : Text := (groupBackwards digits.reverse).reverse

def mark : IntegerStyle → Text
  | hexadecimal _ true => ['0', 'x']
  | _ => []

/-- The final arrangement of padded digits. -/
def arrange : IntegerStyle → Text → Text
  | decimal true, digits => group digits
  | _, digits => digits

/-- Write a number, given its sign and what stands for its digits in each style. -/
def write (negative : Bool) (digitsIn : IntegerStyle → Except Fault Text) (options : Text) :
    Rendering :=
  let (style, count) := cut (Text.trim options)
  Rendering.ofExcept (digitsIn style) fun digits =>
    Count.withCount .integer count fun least =>
      Rendering.ofExcept (Repetition.padLeft (least.getD 0) '0' digits) fun padded =>
        Rendering.write ((if negative then ['-'] else []) ++ style.mark ++ style.arrange padded)

end IntegerStyle

namespace Scalar

def renderInteger (value : Int) : Text → Rendering :=
  IntegerStyle.write (decide (value < 0)) (IntegerStyle.digits value.natAbs)

def renderFloatAsInteger (value : Double) : Text → Rendering :=
  IntegerStyle.write value.isNegative (IntegerStyle.shortestDigits value)

end Scalar

namespace Subject

def renderAsInteger : Subject → Text → Rendering
  | scalar (.integer value), options => Scalar.renderInteger value options
  | scalar (.boolean value), options => Scalar.renderInteger value.toInt options
  | scalar (.float value), options => Scalar.renderFloatAsInteger value options
  | _, _ => Rendering.fail .unsuitableValue

end Subject
end FieldText
