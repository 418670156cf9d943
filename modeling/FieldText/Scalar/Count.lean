import FieldText.Rendering

/-!
The count at the end of an options text.  A blank text gives no count, a numeral gives one, and any
other text is noted and ignored.  A numeral beyond the conversion limit is a fault.
-/

namespace FieldText

/-- What a text says about a count. -/
inductive Count where
  | absent
  | given (count : Nat)
  | tooLong
  | unrecognised
  deriving DecidableEq, Repr

namespace Count

/-- Read a count, with blanks around it allowed. -/
def read (text : Text) : Count :=
  let digits := Text.trim text
  if digits.isEmpty then absent
  else if Numeral.isNumeral digits then
    match Numeral.read? digits with
    | some count => given count
    | none => tooLong
  else unrecognised

def getD (count : Count) (fallback : Nat) : Nat :=
  match count with
  | given count => count
  | _ => fallback

/-- Go on with the count that a text gives, if any. -/
def withCount (family : CountedOptions) (text : Text) (next : Option Nat → Rendering) : Rendering :=
  match read text with
  | absent => next none
  | given count => next (some count)
  | tooLong => Rendering.fail .numeralTooLong
  | unrecognised => (Rendering.note (.ignoredCount family text)).andThen (next none)

end Count
end FieldText
