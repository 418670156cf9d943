import FieldText.Text.Basic

/-!
The width of a text, under the two measures that padding can use.  By characters every character
counts one.  By cells a character takes the columns that a terminal gives it, at most two.  Which
character takes how many is known to the terminal and not to this library, so the measure by cells is
always given from outside.
-/

namespace FieldText

/-- A way to count the width of rendered text: the columns of every character. -/
structure Measure where
  charWidth : Char → Nat
  charWidth_le_two : ∀ c, charWidth c ≤ 2

/-- The two measures by what they count. -/
inductive Measure.Kind where
  | chars
  | cells
  deriving DecidableEq, Repr

namespace Measure

def chars : Measure := ⟨fun _ => 1, fun _ => Nat.le_succ 1⟩

namespace Kind

def name : Kind → Text
  | chars => "chars".toList
  | cells => "cells".toList

/-- The kinds in the order in which they are offered. -/
def all : List Kind := [chars, cells]

/-- The kind selected by a word, which must be spelled exactly. -/
def ofName? (word : Text) : Option Kind := all.find? (fun kind => kind.name == word)

/-- The measure of a kind, where cells are counted in the given way. -/
def measure (cells : Measure) : Kind → Measure
  | .chars => Measure.chars
  | .cells => cells

end Kind

/-- The measure selected by a word, where cells are counted in the given way. -/
def ofName? (cells : Measure) (word : Text) : Option Measure :=
  (Kind.ofName? word).map (Kind.measure cells)

/-- The measure of a table of ranges of character codes, ends included, with the columns of each.  Other
characters take one column. -/
def ofRanges (ranges : List (Nat × Nat × Nat)) : Measure where
  charWidth c :=
    match ranges.find? fun range => range.1 ≤ c.toNat && c.toNat ≤ range.2.1 with
    | some range => min range.2.2 2
    | none => 1
  charWidth_le_two c := by
    split
    · exact Nat.min_le_right _ _
    · exact Nat.le_succ 1

/-- The width of a text is the sum of the widths of its characters. -/
def width (measure : Measure) (text : Text) : Nat :=
  text.foldr (fun c columns => measure.charWidth c + columns) 0

@[simp]
theorem width_nil (measure : Measure) : measure.width [] = 0 := rfl

theorem width_append (measure : Measure) (front back : Text) :
    measure.width (front ++ back) = measure.width front + measure.width back := by
  induction front with
  | nil => simp
  | cons c front inductionHypothesis =>
      rw [List.cons_append, width, List.foldr_cons]
      exact (congrArg (measure.charWidth c + ·) inductionHypothesis).trans (Nat.add_assoc _ _ _).symm

end Measure
end FieldText
