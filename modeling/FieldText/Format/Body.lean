import FieldText.Format.Item
import FieldText.Format.Reading

/-!
The body of a replacement field, between its braces: `index[,layout][:options]`.  The body is first
cut into these three parts, and then the parts are read.  A pad may be the colon that would
otherwise begin the options; this is the case exactly when an alignment mark stands right behind it.
-/

namespace FieldText

/-- The parts of a field body, unread. -/
structure Body where
  index : Text
  layout : Option Text
  options : Text
  deriving DecidableEq, Repr

namespace Body

def isSeparator (c : Char) : Bool := c = ',' || c = ':'

/-- What stands behind the colon at the front of a text, if there is one. -/
def afterColon : Text → Text
  | ':' :: options => options
  | _ => []

/-- Cut a layout segment from the options behind it, at the first colon that is not a pad. -/
def cutLayout (segment : Text) : Text × Text :=
  match segment with
  | first :: second :: rest =>
    if (Alignment.ofMark? second).isSome then
      (first :: (second :: rest).takeWhile (· ≠ ':'), afterColon ((second :: rest).dropWhile (· ≠ ':')))
    else (segment.takeWhile (· ≠ ':'), afterColon (segment.dropWhile (· ≠ ':')))
  | _ => (segment.takeWhile (· ≠ ':'), afterColon (segment.dropWhile (· ≠ ':')))

/-- Cut a body into its parts. -/
def cut (body : Text) : Body :=
  let index := body.takeWhile (fun c => !isSeparator c)
  match body.dropWhile (fun c => !isSeparator c) with
  | ',' :: segment =>
    let (layout, options) := cutLayout segment
    ⟨index, some layout, options⟩
  | rest => ⟨index, none, afterColon rest⟩

/-- The index that stands for every numeral too long to convert, `2 ^ 63 - 1`.  No list of arguments
reaches it. -/
def clampedIndex : Nat := 0x7FFFFFFFFFFFFFFF

def readIndex (source digits : Text) : Reading Nat :=
  match Numeral.read? digits with
  | some index => Reading.pure index
  | none => (Reading.note (.clampedIndex source)).map fun _ => clampedIndex

/-- Read the layout part.  A missing part and an unreadable one both leave the field unpadded. -/
def readLayout (mode : Mode) (unreadable : Malformation) (part : Option Text) : Reading Layout :=
  match part with
  | none => Reading.pure Layout.unpadded
  | some text =>
    match Layout.read? text with
    | some layout => Reading.pure layout
    | none => (Reading.report mode unreadable).map fun _ => Layout.unpadded

/-- Read a field from its body.  `source` is the text of the field itself, `place` gives the offset
of the field and the text in which that offset counts. -/
def read (mode : Mode) (place : Malformation.Kind → Malformation) (source body : Text) :
    Reading Item :=
  let parts := cut body
  let digits := Text.trim parts.index
  if Numeral.isNumeral digits then
    (readIndex source digits).andThen fun index =>
      (readLayout mode (place .unreadableLayout) parts.layout).map fun layout =>
        Item.field source ⟨index, layout, parts.options⟩
  else (Reading.report mode (place .unreadableIndex)).map fun _ => Item.unreadable source

end Body
end FieldText
