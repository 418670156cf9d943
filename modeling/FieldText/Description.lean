import FieldText.Format.Item
import FieldText.Text.Quoted

/-!
Descriptions of parsed items, for showing how a format string is split: each item by its position and
kind and, for fields, by what the field asks for.
-/

namespace FieldText

/-- A named part of a description. -/
inductive Description.Detail where
  | number (n : Nat)
  | word (text : Text)
  /-- A text that tables show in quotes. -/
  | verbatim (text : Text)
  deriving DecidableEq, Repr

/-- The parts of a description, by their names and in order. -/
abbrev Description := List (Text × Description.Detail)

namespace Description

/-- The names of all parts, in the order in which tables show them. -/
def columns : List Text :=
  ["type".toList, "spec".toList, "index".toList, "width".toList, "align".toList, "pad".toList,
    "options".toList]

def positionName : Text := "position".toList

/-- Describe the item at a position. -/
def ofItem (position : Nat) (item : Item) : Description :=
  let common : Description :=
    [(positionName, .number position), ("type".toList, .word item.kindName),
      ("spec".toList, .verbatim item.source)]
  match item with
  | .field _ field =>
    common ++
      [("index".toList, .number field.index), ("width".toList, .number field.layout.width),
        ("align".toList, .word field.layout.alignment.name),
        ("pad".toList, .verbatim [field.layout.pad]), ("options".toList, .verbatim field.options)]
  | _ => common

def ofItems (items : List Item) : List Description :=
  items.mapIdx ofItem

def cell : Detail → Text
  | .number n => Numeral.decimal n
  | .word text => text
  | .verbatim text => Quoted.write text

/-- The row of a table for a description; parts that it does not have are left blank. -/
def row (description : Description) : List Text :=
  (positionName :: columns).map fun name => ((description.lookup name).map cell).getD []

end Description
end FieldText
