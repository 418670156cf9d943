import FieldText.Alignment
import FieldText.Text.Numeral

/-!
Field layouts: how wide a field is, where its item sits and what fills the remaining columns.  The
written form is `[[pad]align]width`.  A mark in second place makes the first character the pad, even
when that character is itself a mark or a digit; otherwise a mark in first place stands alone, with
a space for the pad; otherwise the text must be a width, to the right.
-/

namespace FieldText

structure Layout where
  alignment : Alignment
  width : Nat
  pad : Char
  deriving DecidableEq, Repr

namespace Layout

/-- The layout of a field that asks for none: no width, so nothing is ever filled in. -/
def unpadded : Layout := ⟨.right, 0, ' '⟩

/-- The part of a layout in front of the width: an alignment and a pad, and what follows them. -/
def placement : Text → Alignment × Char × Text
  | first :: second :: rest =>
    match Alignment.ofMark? second with
    | some alignment => (alignment, first, rest)
    | none =>
      match Alignment.ofMark? first with
      | some alignment => (alignment, ' ', second :: rest)
      | none => (.right, ' ', Text.trimLeft (first :: second :: rest))
  | [only] =>
    match Alignment.ofMark? only with
    | some alignment => (alignment, ' ', [])
    | none => (.right, ' ', Text.trimLeft [only])
  | [] => (.right, ' ', [])

/-- Read a complete layout.  A blank text asks for no padding; any other text must be a placement
and a width with nothing but blanks after it.  The answer is `none` for every other text. -/
def read? (text : Text) : Option Layout :=
  if Text.isAllBlank text then some unpadded
  else
    let (alignment, pad, rest) := placement text
    let digits := Numeral.leading rest
    if digits.isEmpty then none
    else
      match Numeral.read? digits with
      | none => none
      | some width =>
        if Text.isAllBlank (Numeral.afterLeading rest) then some ⟨alignment, width, pad⟩ else none

/-- The written form of a layout, with the pad and the mark always given. -/
def write (layout : Layout) : Text :=
  layout.pad :: layout.alignment.mark :: Numeral.decimal layout.width

end Layout
end FieldText
