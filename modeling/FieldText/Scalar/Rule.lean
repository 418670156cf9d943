import FieldText.Scalar.Float
import FieldText.Scalar.Integer

/-!
The rules for scalars together.  Text may be cut to a number of characters, and truth is written as
one of two words.  A rule that is applied to a value for which it has no text stops with a fault, but
what the options say about a count is read, and noted, before the value is looked at.
-/

namespace FieldText

namespace Scalar

/-- The words for true and false that options select. -/
def booleanWords? (style : Text) : Option (Text × Text) :=
  match style with
  | ['Y'] => some ("YES".toList, "NO".toList)
  | ['y'] => some ("yes".toList, "no".toList)
  | ['D'] => some ("1".toList, "0".toList)
  | ['d'] => some ("1".toList, "0".toList)
  | ['T'] => some ("TRUE".toList, "FALSE".toList)
  | ['t'] => some ("true".toList, "false".toList)
  | [] => some ("true".toList, "false".toList)
  | _ => none

/-- Render a boolean.  Options that select no words are noted and ignored. -/
def renderBoolean (value : Bool) (options : Text) : Rendering :=
  let word := fun (words : Text × Text) => if value then words.1 else words.2
  match booleanWords? (Text.trim options) with
  | some words => Rendering.write (word words)
  | none =>
    (Rendering.note (.ignoredBooleanOptions options)).andThen
      (Rendering.write (word ("true".toList, "false".toList)))

/-- Render text, cut to a number of characters when options give one. -/
def renderText (content : Text) (options : Text) : Rendering :=
  Count.withCount .string options fun limit =>
    Rendering.write (match limit with | some limit => content.take limit | none => content)

end Scalar

namespace Subject

def renderAsText : Subject → Text → Rendering
  | scalar (.text content), options => Scalar.renderText content options
  | _, options => Count.withCount .string options fun _ => Rendering.fail .unsuitableValue

end Subject

namespace ScalarKind

/-- Render a value by the rule for a kind of scalars. -/
def render (occupancy : Occupancy) (kind : ScalarKind) (subject : Subject) (options : Text) :
    Rendering :=
  match kind with
  | text => subject.renderAsText options
  | boolean => Scalar.renderBoolean (subject.truth occupancy) options
  | integer => subject.renderAsInteger options
  | float => subject.renderAsFloat options

end ScalarKind
end FieldText
