import FieldText.Number.Double
import FieldText.Text.Basic

/-!
TOML values and tables.  A table keeps its keys in order of appearance.  Keys with dots are paths: a
path is followed through tables, and tables that are missing on the way come into being.
-/

namespace FieldText
namespace Toml

/-- A value of a TOML document. -/
inductive Value where
  | text (content : Text)
  | integer (value : Int)
  | float (value : Double)
  | boolean (value : Bool)
  /-- A date, a time of day, or both, as it is written. -/
  | moment (written : Text)
  | array (elements : List Value)
  | table (entries : List (Text × Value))

abbrev Table := List (Text × Value)

abbrev Path := List Text

inductive Failure where
  | malformed
  /-- A decimal integer is longer than the conversion limit. -/
  | numeralTooLong
  deriving DecidableEq, Repr

namespace Table

/-- Set the value of a key, in its old place if there is one. -/
def assign (key : Text) (value : Value) : Table → Table
  | [] => [(key, value)]
  | entry :: rest => if entry.1 = key then (key, value) :: rest else entry :: assign key value rest

/-- Add a new key; it must not be there yet. -/
def add? (key : Text) (value : Value) (table : Table) : Option Table :=
  if (table.lookup key).isSome then none else some (table ++ [(key, value)])

/-- Change the last table of an array of tables. -/
def changeLast? (change : Table → Option Table) (elements : List Value) : Option Value :=
  match elements.getLast? with
  | some (.table entries) =>
    (change entries).map fun changed => .array (elements.dropLast ++ [.table changed])
  | _ => none

/-- Change the table that a path leads to.  Missing tables are created; with `throughArrays` a path
goes through an array of tables to its last table, and otherwise it goes through tables only. -/
def changeAt? (throughArrays : Bool) (change : Table → Option Table) : Path → Table → Option Table
  | [], table => change table
  | key :: path, table =>
    match table.lookup key with
    | none =>
      (changeAt? throughArrays change path []).map fun changed => table.assign key (.table changed)
    | some (.table entries) =>
      (changeAt? throughArrays change path entries).map fun changed =>
        table.assign key (.table changed)
    | some (.array elements) =>
      if throughArrays then
        (changeLast? (changeAt? throughArrays change path) elements).map (table.assign key ·)
      else none
    | some _ => none

/-- Add an empty table at the end of the array of tables at a key. -/
def appendTable? (key : Text) (table : Table) : Option Table :=
  match table.lookup key with
  | none => some (table.assign key (.array [.table []]))
  | some (.array elements) => some (table.assign key (.array (elements ++ [.table []])))
  | some _ => none

end Table
end Toml
end FieldText
