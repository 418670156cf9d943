import FieldText.Number.Literal
import FieldText.Report
import FieldText.Scalar.Basic

/-!
Coercion of argument texts, as the command line gives them, to booleans and numbers.  Three
recognisers are tried in order: six words for booleans, integers, and floating-point numbers in which
commas are allowed.  What none of them accepts stays text.
-/

namespace FieldText
namespace Coercion

def trueWords : List Text := ["true".toList, "yes".toList, "on".toList]

def falseWords : List Text := ["false".toList, "no".toList, "off".toList]

/-- Read a boolean word; blanks around it and the case of its letters do not matter. -/
def boolean? (text : Text) : Option Bool :=
  let word := Text.folded text
  if trueWords.contains word then some true
  else if falseWords.contains word then some false
  else none

/-- Read a number, or refuse an integer that is too long to convert. -/
def number? (text : Text) : Except Fault (Option Scalar) :=
  let trimmed := Text.trim text
  if !trimmed.any DigitClass.isDigitCharacter then .ok none
  else
    let (negative, digits) := Literal.takeSign trimmed
    if Numeral.isNumeral digits then
      match Numeral.read? digits with
      | some magnitude =>
        .ok (some (.integer (if negative then -(magnitude : Int) else magnitude)))
      | none => .error .numeralTooLong
    else .ok ((Literal.read? (trimmed.filter (· ≠ ','))).map Scalar.float)

/-- The scalar that an argument text stands for. -/
def argument (text : Text) : Except Fault Scalar :=
  match boolean? text with
  | some flag => .ok (.boolean flag)
  | none => (number? text).map fun number => number.getD (.text text)

/-- The scalars that argument texts stand for.  Without coercion all of them stay text. -/
def arguments (enabled : Bool) (texts : List Text) : Except Fault (List Scalar) :=
  if enabled then texts.mapM argument else .ok (texts.map Scalar.text)

end Coercion
end FieldText
