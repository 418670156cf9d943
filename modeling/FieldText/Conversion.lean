import FieldText.Display
import FieldText.Number.Literal

/-!
Conversion of values to the content of another type, as making an instance of a declared type needs
it.  A value whose type has no counterpart in the wanted type is unsuitable; one whose type has a
counterpart, but whose content has none, is inconvertible.
-/

namespace FieldText
namespace Conversion

/-- Read an integer with an optional sign.  White space around it, decimal digits of any script and
single underscores between digits are allowed. -/
def readInteger (text : Text) : Except Fault Int :=
  match Literal.withoutUnderscores? false ((Literal.stripSpace text).map DigitClass.toPlain) with
  | none => .error .inconvertibleContent
  | some plain =>
    let (negative, digits) := Literal.takeSign plain
    if Numeral.isNumeral digits then
      match Numeral.read? digits with
      | some magnitude => .ok (if negative then -(magnitude : Int) else magnitude)
      | none => .error .numeralTooLong
    else .error .inconvertibleContent

/-- The number in front of the fraction. -/
def truncate : Double → Except Fault Int
  | .finite negative mantissa exponent =>
    let (numerator, denominator) := Double.quotient mantissa exponent
    let magnitude : Int := numerator / denominator
    .ok (if negative then -magnitude else magnitude)
  | .infinite _ => .error .numberOutOfRange
  | .nan => .error .inconvertibleContent

/-- The floating-point number nearest to an integer. -/
def nearest (value : Int) : Except Fault Double :=
  let number := Double.ofInt value
  if number.isFinite then .ok number else .error .numberOutOfRange

/-- The characters of ASCII that bytes stand for, unless some stand for none. -/
def ascii? (heap : Heap) (value : Value) : Option Text :=
  match value with
  | .container place =>
    match (heap.get? place).map Container.content with
    | some (.collection .bytes elements) =>
      let content := elements.map Display.byte
      if content.all fun c => c.toNat < 0x80 then some content else some []
    | _ => none
  | _ => none

/-- The integer that a value is converted to. -/
def toInteger (heap : Heap) : Value → Except Fault Int
  | .scalar _ (.text content) => readInteger content
  | .scalar _ (.boolean value) => .ok value.toInt
  | .scalar _ (.integer value) => .ok value
  | .scalar _ (.float value) => truncate value
  | value =>
    match ascii? heap value with
    | some content => readInteger content
    | none => .error .unsuitableValue

def readFloat (text : Text) : Except Fault Double :=
  match Literal.read? text with
  | some number => .ok number
  | none => .error .inconvertibleContent

/-- The floating-point number that a value is converted to. -/
def toFloat (heap : Heap) : Value → Except Fault Double
  | .scalar _ (.text content) => readFloat content
  | .scalar _ (.boolean value) => nearest value.toInt
  | .scalar _ (.integer value) => nearest value
  | .scalar _ (.float value) => .ok value
  | value =>
    match ascii? heap value with
    | some content => readFloat content
    | none => .error .unsuitableValue

/-- The elements that a list or tuple takes over from a value. -/
def toElements (heap : Heap) (value : Value) : Except Fault (List Value) :=
  match heap.elements? value with
  | some elements => .ok elements
  | none => .error .unsuitableValue

/-- The key of a pair. -/
def key (heap : Heap) (pair : Value) : Except Fault Value :=
  match heap.elements? pair with
  | none => .error .unsuitableValue
  | some [key, _] =>
    match key with
    | .container place =>
      -- Only containers that cannot be changed are keys.
      match (heap.get? place).map Container.content with
      | some (.list _) => .error .unsuitableValue
      | some (.collection .dictionary _) => .error .unsuitableValue
      | some (.collection .set _) => .error .unsuitableValue
      | _ => .ok key
    | key => .ok key
  | some _ => .error .inconvertibleContent

/-- Whether two keys are one: texts with the same characters, and equal integers, where truth counts as
one and falsehood as zero. -/
def sameKey : Value → Value → Bool
  | .scalar _ (.boolean first), second => sameKey.integer first.toInt second
  | .scalar _ (.integer first), second => sameKey.integer first second
  | .scalar _ (.text first), .scalar _ (.text second) => first == second
  | _, _ => false
where
  integer (first : Int) : Value → Bool
    | .scalar _ (.boolean second) => first == second.toInt
    | .scalar _ (.integer second) => first == second
    | _ => false

/-- The first of each group of keys that are one. -/
def distinct (keys : List Value) : List Value :=
  keys.foldl (fun found key => if found.any (sameKey key) then found else found ++ [key]) []

/-- The keys that a dictionary takes over from another one, or from pairs. -/
def toKeys (heap : Heap) (value : Value) : Except Fault (List Value) :=
  match value with
  | .container place =>
    match (heap.get? place).map Container.content with
    | some (.collection .dictionary keys) => .ok keys
    | some content => (content.elements.mapM (key heap)).map distinct
    | none => .error .unsuitableValue
  | value =>
    (toElements heap value).bind fun pairs => (pairs.mapM (key heap)).map distinct

def byteLimit : Int := 256

/-- The byte that a value is converted to. -/
def toByte (value : Value) : Except Fault Value :=
  let bounded := fun (number : Int) =>
    if 0 ≤ number && number < byteLimit then .ok (.scalar .integer (.integer number))
    else .error .inconvertibleContent
  match value with
  | .scalar _ (.integer number) => bounded number
  | .scalar _ (.boolean flag) => bounded flag.toInt
  | _ => .error .unsuitableValue

/-- As many zeros as a number says. -/
def zeroBytes (count : Int) : Except Fault (List Value) :=
  if (Repetition.countLimit : Int) < count || count < -(Repetition.countLimit : Int) - 1 then
    .error .numberOutOfRange
  else if count < 0 then .error .inconvertibleContent
  else .ok (List.replicate count.toNat (.scalar .integer (.integer 0)))

/-- The bytes that a value is converted to: zeros for a number, and the elements of a container. -/
def toBytes (heap : Heap) : Value → Except Fault (List Value)
  | .scalar _ (.integer count) => zeroBytes count
  | .scalar _ (.boolean flag) => zeroBytes flag.toInt
  | .scalar _ _ => .error .unsuitableValue
  | value => (toElements heap value).bind fun elements => elements.mapM toByte

end Conversion
end FieldText
