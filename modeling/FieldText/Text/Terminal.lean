import FieldText.Measure

/-!
What a terminal shows for one piece of output.  Five control characters are not printed at all, and
a tab becomes the spaces up to the next tab stop.  Tab stops are counted in cells from the start of
the line within the same piece, so a text that is cut into pieces can be shown differently from the
whole text when it holds tabs.
-/

namespace FieldText
namespace Terminal

def tabStop : Nat := 8

/-- The control characters that are dropped: bell, backspace, vertical tab, form feed and
carriage return. -/
def isDropped (c : Char) : Bool :=
  let code := c.toNat
  code == 0x07 || code == 0x08 || code == 0x0B || code == 0x0C || code == 0x0D

/-- The spaces between a column and the next tab stop, at least one. -/
def tabFill (column : Nat) : Nat := tabStop - column % tabStop

/-- Replace every tab by spaces, starting from a column of the current line. -/
def expandTabs (measure : Measure) : Nat → Text → Text
  | _, [] => []
  | column, c :: rest =>
    if c = '\n' then c :: expandTabs measure 0 rest
    else if c = '\t' then
      List.replicate (tabFill column) ' ' ++ expandTabs measure (column + tabFill column) rest
    else c :: expandTabs measure (column + measure.charWidth c) rest

/-- The text that appears when one piece is printed. -/
def shown (measure : Measure) (piece : Text) : Text :=
  expandTabs measure 0 (piece.filter (fun c => !isDropped c))

/-- The text that appears when pieces are printed one after the other. -/
def shownAll (measure : Measure) (pieces : List Text) : Text := pieces.flatMap (shown measure)

theorem expandTabs_eq_self (measure : Measure) {text : Text} (plain : ∀ c ∈ text, c ≠ '\t')
    (column : Nat) : expandTabs measure column text = text := by
  induction text generalizing column with
  | nil => rfl
  | cons c rest inductionHypothesis =>
      have here := plain c List.mem_cons_self
      have later := inductionHypothesis (fun d member => plain d (List.mem_cons_of_mem c member))
      simp only [expandTabs, if_neg here, later]
      split <;> rfl

end Terminal
end FieldText
