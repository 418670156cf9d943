import FieldText.Text.Quoted
import FieldText.Value

/-!
The text that a value has by itself, without any provider: words for truth and absence, shortest
numerals for numbers, and the elements of a container between brackets, with text in quotes.  A
container that is met inside itself is shown as empty brackets around three dots.
-/

namespace FieldText
namespace Display

/-- A sign and the decimal numeral of a magnitude, within the conversion limit. -/
def integer (value : Int) : Except Fault Text :=
  match Numeral.write? value.natAbs with
  | some digits => .ok ((if value < 0 then ['-'] else []) ++ digits)
  | none => .error .numeralTooLong

/-- A scalar as it is shown inside a container. -/
def scalar : Scalar → Except Fault Text
  | .text content => .ok (Quoted.write content)
  | .boolean value => .ok (if value then "True".toList else "False".toList)
  | .integer value => integer value
  | .float value => .ok value.shortest

/-- One part of a complex number: a shortest numeral without an idle fraction. -/
def part (value : Double) : Text :=
  let text := value.shortest
  let short := text.take (text.length - 2)
  if short ++ ['.', '0'] = text then short else text

/-- A complex number, in brackets unless its first part vanishes. -/
def complex (real imaginary : Double) : Text :=
  if real = Double.zero false then part imaginary ++ ['j']
  else
    let second := part imaginary
    let sign := if second.head? = some '-' then [] else ['+']
    '(' :: part real ++ sign ++ second ++ ['j', ')']

def separator : Text := [',', ' ']

/-- Elements that are shown already, between the brackets of their container.  A tuple of one element
keeps a comma, to be told from an element in brackets. -/
def enclose (content : Container.Content) (elements : List Text) : Except Fault Text :=
  match content, elements with
  | .list _, elements => .ok ('[' :: Text.join separator elements ++ [']'])
  | .tuple _, [only] => .ok ('(' :: only ++ [',', ')'])
  | .tuple _, elements => .ok ('(' :: Text.join separator elements ++ [')'])
  | .collection .dictionary _, [] => .ok ['\x7b', '\x7d']
  | .collection .set _, [] => .ok "set()".toList
  | _, _ => .error .unsuitableValue

/-- A range by its bounds, and by its step unless that is one. -/
def range (start stop step : Int) : Except Fault Text :=
  (([start, stop] ++ if step = 1 then [] else [step]).mapM integer).map fun bounds =>
    "range(".toList ++ Text.join separator bounds ++ [')']

/-- The byte of a number, as a character. -/
def byte : Value → Char
  | .scalar _ (.integer value) => Char.ofNat value.toNat
  | _ => Char.ofNat 0

/-- One byte between the given quotes; those outside of ASCII are shown by their codes. -/
def quotedByte (quote c : Char) : Text :=
  if c.toNat < 0x7F then Quoted.character quote c else Quoted.codeEscape c

/-- Bytes as quoted text with a mark. -/
def bytes (elements : List Value) : Text :=
  let content := elements.map byte
  let quote := Quoted.quoteFor content
  'b' :: quote :: content.flatMap (quotedByte quote) ++ [quote]

/-- A value as it is shown inside a container, given the containers that it stands in and room for
the depth of what it holds. -/
def within (heap : Heap) : Nat → List Nat → Value → Except Fault Text
  | _, _, .scalar _ content => scalar content
  | _, _, .complex real imaginary => .ok (complex real imaginary)
  | room, around, .container place =>
    match heap.get? place with
    | none => .error .unsuitableValue
    | some container =>
      match container.content with
      | .range start stop step => range start stop step
      | .collection .bytes elements => .ok (bytes elements)
      | content =>
        if place ∈ around then .ok (heap.placeholder (.container place))
        else
          match room with
          | 0 => .error .nestingTooDeep
          | room + 1 =>
            (content.elements.mapM (within heap room (place :: around))).bind (enclose content)
  | _, _, .plain .absent => .ok "None".toList
  | _, _, .plain .ellipsis => .ok "Ellipsis".toList
  | _, _, _ => .error .unsuitableValue

/-- A value by itself.  Text is shown as it is, and a session by what it renders. -/
def value (heap : Heap) : Value → Except Fault Text
  | .scalar _ (.text content) => .ok content
  | .session renderer =>
    let rendering := renderer.render heap.occupancy []
    match rendering.fault with
    | some fault => .error fault
    | none => .ok rendering.text
  | value => within heap heap.size [] value

end Display
end FieldText
