import FieldText.Text.Basic

/-!
The types that an argument of a format string can have.  Text, booleans, numbers and sequences have
built-in providers; adapters, sessions and wrappers are the library's own.  The other types have no
provider unless a registry is given one, and further types are declared while the program runs.
-/

namespace FieldText

/-- The type of an argument. -/
inductive ArgumentType where
  | object
  /-- The type of the value that stands for nothing. -/
  | absent
  | text
  | boolean
  | integer
  | float
  | list
  | tuple
  | range
  | complex
  | dictionary
  | set
  | bytes
  /-- The type of the value that stands for what is left out. -/
  | ellipsis
  | adapter
  | session
  | wrapper
  /-- A declared type is told from others of the same name by its serial number. -/
  | declared (serial : Nat) (name : Text)
  deriving DecidableEq, Repr

end FieldText
