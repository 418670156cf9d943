import FieldText.Format.Body
import FieldText.Format.Piece

/-!
Reading a whole format string: split it into pieces, read each piece to an item, and merge the
literals.  Malformed pieces are reported at the offset of the brace that they begin with, and when
they are recovered from, all their characters become literal text.
-/

namespace FieldText

namespace Piece

/-- Read one piece that begins at an offset of a format string. -/
def read (mode : Mode) (format : Text) (offset : Nat) (piece : Piece) : Reading Item :=
  let place := fun kind => Malformation.mk kind offset format
  match piece with
  | run text => Reading.pure (.literal text)
  | doubled brace => Reading.pure (.literal [brace])
  | field body => Body.read mode place piece.source body
  | unmatched =>
    (Reading.report mode (place .unmatchedBrace)).map fun _ => .literal piece.source
  | nested _ => (Reading.report mode (place .nestedBrace)).map fun _ => .literal piece.source
  | unterminated _ =>
    (Reading.report mode (place .unterminatedField)).map fun _ => .literal piece.source

end Piece

namespace Format

/-- Read the pieces of the rest of a format string, which begins at an offset. -/
def readFrom (mode : Mode) (format : Text) (offset : Nat) (text : Text) : Reading (List Item) :=
  if _nonempty : text = [] then Reading.pure []
  else
    let piece := (Piece.split text).1
    (piece.read mode format offset).andThen fun item =>
      (readFrom mode format (offset + piece.source.length) (Piece.split text).2).map fun items =>
        item :: items
termination_by text.length
decreasing_by exact Piece.length_split_lt _nonempty

def parse (mode : Mode) (format : Text) : Reading (List Item) :=
  (readFrom mode format 0 format).map Item.merge

/-- Split the item that begins at an offset off a format string, and give the offset behind it.
Behind the end of the format string there is only the empty literal. -/
def splitItem (mode : Mode) (format : Text) (start : Nat) : Reading (Item × Nat) :=
  let text := format.drop start
  let (piece, rest) := Piece.split text
  (piece.read mode format start).map fun item => (item, format.length - rest.length)

end Format
end FieldText
