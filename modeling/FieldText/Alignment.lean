import FieldText.Text.Basic

/-!
Where a rendered item sits inside the width that was requested for it.
-/

namespace FieldText

/-- The three places of an item inside a wider field. -/
inductive Alignment where
  | left
  | center
  | right
  deriving DecidableEq, Repr

namespace Alignment

/-- The character that stands for an alignment in a field layout. -/
def mark : Alignment → Char
  | left => '-'
  | center => '='
  | right => '+'

def ofMark? (c : Char) : Option Alignment :=
  if c = '-' then some left
  else if c = '=' then some center
  else if c = '+' then some right
  else none

def name : Alignment → Text
  | left => "left".toList
  | center => "center".toList
  | right => "right".toList

/-- The alignment that a word stands for, which must be spelled exactly. -/
def ofName? (word : Text) : Option Alignment :=
  [left, center, right].find? (fun alignment => alignment.name == word)

theorem ofMark?_eq_some_iff (c : Char) (alignment : Alignment) :
    ofMark? c = some alignment ↔ c = alignment.mark := by
  constructor
  · intro found
    unfold ofMark? at found
    split at found
    · next same => cases found; exact same
    · split at found
      · next same => cases found; exact same
      · split at found
        · next same => cases found; exact same
        · cases found
  · intro same
    subst same
    cases alignment <;> rfl

end Alignment
end FieldText
