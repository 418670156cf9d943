import FieldText.Measure
import FieldText.Alignment
import FieldText.Rendering

/-!
Repeating a text and filling a width with it.  A repetition is limited both in its count and in the
length of its result, and asking for more is a fault rather than a text.  What can be counted is also
written: there is always memory enough for it.
-/

namespace FieldText
namespace Repetition

/-- The largest count, and the largest length of a result: `2 ^ 63 - 1`. -/
def countLimit : Nat := 0x7FFFFFFFFFFFFFFF

/-- A text written several times back to back, or the fault that a limit causes. -/
def copies (count : Nat) (text : Text) : Except Fault Text :=
  if countLimit < count || countLimit < text.length * count then .error .countTooLarge
  else if text.isEmpty then .ok []
  else .ok (List.replicate count text).flatten

/-- Fill up with a character on the left until the text has the wanted length, or meet a limit. -/
def padLeft (length : Nat) (fill : Char) (text : Text) : Except Fault Text :=
  if countLimit < length then .error .countTooLarge
  else .ok (Text.padLeft length fill text)

/-- Write copies of a text as one chunk.  Nothing at all is written when no copy is asked for. -/
def fill (count : Int) (text : Text) : Rendering :=
  if count ≤ 0 then Rendering.done else Rendering.ofExcept (copies count.toNat text) Rendering.write

/-- Write an item inside a requested width.  Without a width the item is rendered straight into the
sink.  With one it is rendered aside and measured, and the missing columns are filled with the pad:
after the item, before it, or on both sides with the odd column behind it.  An item that is wide
enough is written whole. -/
def align (alignment : Alignment) (amount : Int) (pad : Text) (measure : Measure)
    (item : Rendering) : Rendering :=
  if amount = 0 then item
  else
    item.collect fun text =>
      let missing := amount - (measure.width text : Int)
      if missing ≤ 0 then Rendering.write text
      else
        match alignment with
        | .left => (Rendering.write text).andThen (fill missing pad)
        | .center =>
          (fill (missing / 2) pad).andThen
            ((Rendering.write text).andThen (fill (missing - missing / 2) pad))
        | .right => (fill missing pad).andThen (Rendering.write text)

def surround (left right : Int) (item : Rendering) : Rendering :=
  (fill left [' ']).andThen (item.andThen (fill right [' ']))

/-- Write an item several times back to back, as one chunk.  The item is rendered once, aside. -/
def repeated (count : Int) (item : Rendering) : Rendering :=
  if count ≤ 0 then Rendering.done
  else item.collect fun text => Rendering.ofExcept (copies count.toNat text) Rendering.write

end Repetition
end FieldText
