import FieldText.Number.FixedPoint
import FieldText.Number.Literal
import FieldText.Toml.Token

/-!
The values of a TOML document that have no parts: dates and times, integers in four bases, and
floating-point numbers.  A reader gives `none` when its kind of value does not begin here.
-/

namespace FieldText
namespace Toml

/-! ## Dates and times -/

/-- Take a number of exactly so many digits, between two bounds, off the front of a text. -/
def takeNumber? (length least greatest : Nat) (text : Text) : Option (Nat × Text) :=
  let digits := text.take length
  if digits.length = length && digits.all Char.isDigit then
    let number := Numeral.value digits
    if least ≤ number && number ≤ greatest then some (number, text.drop length) else none
  else none

def takeChar? (expected : Char) : Text → Option Text
  | c :: rest => if c = expected then some rest else none
  | [] => none

/-- Take a fraction of a second off the front of a text, if there is one. -/
def takeFraction (text : Text) : Text :=
  match text with
  | '.' :: c :: rest => if c.isDigit then Numeral.afterLeading rest else text
  | _ => text

/-- Take a time of day off the front of a text. -/
def takeTime? (text : Text) : Option Text := do
  let (_, rest) ← takeNumber? 2 0 23 text
  let rest ← takeChar? ':' rest
  let (_, rest) ← takeNumber? 2 0 59 rest
  let rest ← takeChar? ':' rest
  let (_, rest) ← takeNumber? 2 0 59 rest
  pure (takeFraction rest)

/-- Take the distance to universal time off the front of a text, if there is one. -/
def takeOffset (text : Text) : Text :=
  match text with
  | [] => []
  | c :: rest =>
    if c = 'Z' || c = 'z' then rest
    else if c = '+' || c = '-' then
      let minutes := do
        let (_, rest) ← takeNumber? 2 0 23 rest
        let rest ← takeChar? ':' rest
        let (_, rest) ← takeNumber? 2 0 59 rest
        pure rest
      minutes.getD text
    else text

def daysInMonth (year month : Nat) : Nat :=
  if month = 2 then
    if year % 4 = 0 && (year % 100 != 0 || year % 400 = 0) then 29 else 28
  else if month = 4 || month = 6 || month = 9 || month = 11 then 30
  else 31

/-- Take a date off the front of a text: its year, month and day. -/
def takeDate? (text : Text) : Option ((Nat × Nat × Nat) × Text) := do
  let (year, rest) ← takeNumber? 4 0 9999 text
  let rest ← takeChar? '-' rest
  let (month, rest) ← takeNumber? 2 1 12 rest
  let rest ← takeChar? '-' rest
  let (day, rest) ← takeNumber? 2 1 31 rest
  pure ((year, month, day), rest)

/-- Take the time of day that may follow a date, behind a letter or a space. -/
def takeTimeOfDate (text : Text) : Text :=
  match text with
  | [] => []
  | c :: rest =>
    if c = 'T' || c = 't' || c = ' ' then ((takeTime? rest).map takeOffset).getD text else text

/-- The front of a text that was taken off, given what is left. -/
def taken (text rest : Text) : Text := text.take (text.length - rest.length)

/-- Read a date, a time, or both.  A date that does not exist is an error. -/
def readMoment? (text : Text) : Option (Except Failure (Value × Text)) :=
  match takeDate? text with
  | some ((year, month, day), rest) =>
    let rest := takeTimeOfDate rest
    some
      (if year = 0 || daysInMonth year month < day then malformed
      else .ok (.moment (taken text rest), rest))
  | none => (takeTime? text).map fun rest => .ok (.moment (taken text rest), rest)

/-! ## Numbers -/

/-- Take digits off the front of a text; single underscores may stand between them. -/
def takeDigits (isDigit : Char → Bool) : Text → Text × Text
  | [] => ([], [])
  | c :: rest =>
    if isDigit c then
      let (digits, left) := takeDigits isDigit rest
      (c :: digits, left)
    else if c = '_' then
      match rest with
      | d :: _ =>
        if isDigit d then takeDigits isDigit rest else ([], c :: rest)
      | [] => ([], c :: rest)
    else ([], c :: rest)

/-- Take digits off the front of a text that must begin with one. -/
def takeDigits? (isDigit : Char → Bool) (text : Text) : Option (Text × Text) :=
  match text with
  | c :: _ => if isDigit c then some (takeDigits isDigit text) else none
  | [] => none

/-- The number that digits denote in a base of at most sixteen. -/
def numberInBase (base : Nat) (digits : Text) : Nat :=
  digits.foldl (fun total c => base * total + (hexValue? c).getD 0) 0

def isDigitOf (base : Nat) (c : Char) : Bool :=
  match hexValue? c with
  | some digit => digit < base
  | none => false

/-- Read an integer with a mark for its base. -/
def readMarked? (text : Text) : Option (Value × Text) :=
  match text with
  | '0' :: mark :: rest =>
    let base := if mark = 'x' then 16 else if mark = 'o' then 8 else if mark = 'b' then 2 else 0
    (takeDigits? (isDigitOf base) rest).map fun parts =>
      (.integer (numberInBase base parts.1), parts.2)
  | _ => none

/-- Take the whole part of a decimal number: a zero, or digits that do not begin with one. -/
def takeWhole? (text : Text) : Option (Text × Text) :=
  match text with
  | '0' :: rest => some (['0'], rest)
  | _ => takeDigits? Char.isDigit text

/-- Take a fraction, if there is one. -/
def takeFractionPart (text : Text) : Text × Text :=
  match text with
  | '.' :: rest =>
    match takeDigits? Char.isDigit rest with
    | some (digits, rest) => ('.' :: digits, rest)
    | none => ([], text)
  | _ => ([], text)

/-- Take an exponent, if there is one. -/
def takeExponentPart (text : Text) : Text × Text :=
  match text with
  | mark :: rest =>
    if mark = 'e' || mark = 'E' then
      let sign := (rest.take 1).filter fun c => c = '+' || c = '-'
      match takeDigits? Char.isDigit (rest.drop sign.length) with
      | some (digits, rest) => ('e' :: sign ++ digits, rest)
      | none => ([], text)
    else ([], text)
  | [] => ([], [])

/-- Read a decimal number.  It is a floating-point number when it has a fraction or an exponent. -/
def readDecimal? (text : Text) : Option (Except Failure (Value × Text)) :=
  let (negative, unsigned) := Literal.takeSign text
  (takeWhole? unsigned).map fun (whole, rest) =>
    let (fraction, rest) := takeFractionPart rest
    let (exponent, rest) := takeExponentPart rest
    if fraction.isEmpty && exponent.isEmpty then
      match Numeral.read? whole with
      | some magnitude => .ok (.integer (if negative then -(magnitude : Int) else magnitude), rest)
      | none => .error .numeralTooLong
    else
      match Literal.readUnsigned? negative (whole ++ fraction ++ exponent) with
      | some value => .ok (.float value, rest)
      | none => malformed

def readSpecial? (text : Text) : Option (Value × Text) :=
  let (negative, rest) := Literal.takeSign text
  if Text.startsWith Double.infinityWord rest then some (.float (.infinite negative), rest.drop 3)
  else if Text.startsWith Double.nanWord rest then some (.float .nan, rest.drop 3)
  else none

end Toml
end FieldText
