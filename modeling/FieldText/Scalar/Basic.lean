import FieldText.Number.Double
import FieldText.Text.Basic

/-!
Scalars: values without parts, in four kinds.  Each kind has a rule for writing its values, and every
rule can be applied to a value of another kind, or to one that is no scalar.  `Subject` is what the
rules see of a value, and truth is the one thing that every value has.
-/

namespace FieldText

/-- A value without parts. -/
inductive Scalar where
  | text (content : Text)
  | boolean (value : Bool)
  | integer (value : Int)
  | float (value : Double)
  deriving DecidableEq, Repr

/-- The kinds of scalars, each with a rule of its own for writing. -/
inductive ScalarKind where
  | text
  | boolean
  | integer
  | float
  deriving DecidableEq, Repr

/-- Which containers hold anything, at the time of writing. -/
abbrev Occupancy := Nat → Bool

/-- What the rules for scalars see of a value. -/
inductive Subject where
  | scalar (content : Scalar)
  | complex (real imaginary : Double)
  /-- A container, by its place.  It can still be changed until it is written. -/
  | container (place : Nat)
  /-- A value of which nothing but its truth is known. -/
  | plain (truth : Bool)
  deriving DecidableEq, Repr

namespace Scalar

/-- A scalar is true unless it is empty or zero. -/
def truth : Scalar → Bool
  | text content => !content.isEmpty
  | boolean value => value
  | integer value => value != 0
  | float value => value.isNonzero

end Scalar

namespace Subject

/-- The truth of a value.  A container is true when it holds anything at the time of writing. -/
def truth (occupancy : Occupancy) : Subject → Bool
  | scalar content => content.truth
  | complex real imaginary => real.isNonzero || imaginary.isNonzero
  | container place => occupancy place
  | plain truth => truth

end Subject
end FieldText
