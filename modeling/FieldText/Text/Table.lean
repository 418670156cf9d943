import FieldText.Measure

/-!
Tables drawn with box characters.  Every column is as wide as its widest cell, counted in the cells of
a terminal, with one space at both sides; the header stands in a heavy frame and the rows in a light
one.
-/

namespace FieldText
namespace Table

/-- The widths of columns that must hold the given rows. -/
def columnWidths (measure : Measure) (rows : List (List Text)) : List Nat :=
  match rows with
  | [] => []
  | first :: rest =>
    rest.foldl (fun widths row => List.zipWith max widths (row.map measure.width))
      (first.map measure.width)

/-- A horizontal line: a corner, the columns with a crossing between them, and a corner. -/
def rule (left bar crossing right : Char) (widths : List Nat) : Text :=
  left :: Text.join [crossing] (widths.map fun columns => List.replicate (columns + 2) bar) ++
    [right, '\n']

def line (measure : Measure) (edge : Char) (widths : List Nat) (cells : List Text) : Text :=
  let filled := List.zipWith
    (fun columns cell => ' ' :: cell ++ List.replicate (columns - measure.width cell + 1) ' ')
    widths cells
  edge :: Text.join [edge] filled ++ [edge, '\n']

def draw (measure : Measure) (title : Text) (header : List Text) (rows : List (List Text)) : Text :=
  let widths := columnWidths measure (header :: rows)
  title ++ '\n' :: rule '┏' '━' '┳' '┓' widths ++ line measure '┃' widths header ++
    rule '┡' '━' '╇' '┩' widths ++ rows.flatMap (line measure '│' widths) ++
    rule '└' '─' '┴' '┘' widths

end Table
end FieldText
