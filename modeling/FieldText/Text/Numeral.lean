import FieldText.Text.Basic

/-!
Numerals: texts of ASCII digits and the natural numbers that they denote.  Reading and writing in
base ten are limited to a fixed number of digits; a longer numeral is refused rather than converted.
Base sixteen has no such limit.
-/

namespace FieldText
namespace Numeral

/-- The longest decimal numeral that is converted in either direction.  Leading zeros count. -/
def digitLimit : Nat := 4300

def digitValue (c : Char) : Nat := c.toNat - '0'.toNat

/-- The number that a text of decimal digits denotes, most significant digit first. -/
def value (digits : Text) : Nat := digits.foldl (fun total c => 10 * total + digitValue c) 0

/-- Whether a text is a numeral: at least one character, and ASCII digits only. -/
def isNumeral (text : Text) : Bool := !text.isEmpty && text.all Char.isDigit

def leading (text : Text) : Text := text.takeWhile Char.isDigit

def afterLeading (text : Text) : Text := text.dropWhile Char.isDigit

/-- Read a text of digits, or refuse it because it is longer than the limit. -/
def read? (digits : Text) : Option Nat :=
  if digits.length ≤ digitLimit then some (value digits) else none

def decimal (n : Nat) : Text := Nat.toDigits 10 n

/-- The shortest hexadecimal numeral of a number, in small letters. -/
def hexadecimal (n : Nat) : Text := Nat.toDigits 16 n

/-- The decimal numeral of a number, unless it would be longer than the limit. -/
def write? (n : Nat) : Option Text :=
  let digits := decimal n
  if digits.length ≤ digitLimit then some digits else none

/-- The decimal numeral of an integer, with a minus sign in front of the negative ones. -/
def signed (i : Int) : Text := if i < 0 then '-' :: decimal i.natAbs else decimal i.natAbs

theorem leading_append_afterLeading (text : Text) : leading text ++ afterLeading text = text :=
  List.takeWhile_append_dropWhile

theorem isDigit_of_mem_leading {text : Text} {c : Char} (member : c ∈ leading text) :
    c.isDigit = true := by
  induction text with
  | nil => simp [leading] at member
  | cons head rest inductionHypothesis =>
      cases digit : head.isDigit with
      | true =>
          simp only [leading, List.takeWhile_cons, digit, if_true, List.mem_cons] at member
          cases member with
          | inl same => exact same ▸ digit
          | inr later => exact inductionHypothesis later
      | false => simp [leading, digit] at member

end Numeral
end FieldText
