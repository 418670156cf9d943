import FieldText.Layout
import Mathlib.Data.List.TakeWhile

/-!
Layouts and the numerals in them.  The numeral of a number is read back as that number, and a layout
that is written in full, with its pad and its mark, is read back as it was: the mark in second place
settles what the pad is, whatever character that may be.
-/

namespace FieldText

/-! ## Numerals -/

namespace Numeral

theorem isDigit_of_mem_decimal {n : Nat} {c : Char} (member : c ∈ decimal n) : c.isDigit = true :=
  Nat.isDigit_of_mem_toDigits (by decide) (by decide) member

theorem decimal_ne_nil (n : Nat) : decimal n ≠ [] := Nat.toDigits_ne_nil

theorem value_decimal (n : Nat) : value (decimal n) = n := Nat.ofDigitChars_ten_toDigits

theorem isNumeral_decimal (n : Nat) : isNumeral (decimal n) = true := by
  have digits : (decimal n).all Char.isDigit = true :=
    List.all_eq_true.mpr fun c member => isDigit_of_mem_decimal member
  simp [isNumeral, digits, decimal_ne_nil]

theorem read?_decimal {n : Nat} (short : (decimal n).length ≤ digitLimit) :
    read? (decimal n) = some n := by
  rw [read?, if_pos short, value_decimal]

theorem leading_eq_self {digits : Text} (all : ∀ c ∈ digits, c.isDigit = true) :
    leading digits = digits :=
  List.takeWhile_eq_self_iff.mpr all

theorem afterLeading_eq_nil {digits : Text} (all : ∀ c ∈ digits, c.isDigit = true) :
    afterLeading digits = [] :=
  List.dropWhile_eq_nil_iff.mpr all

end Numeral

namespace Text

theorem isBlank_of_isDigit {c : Char} (digit : c.isDigit = true) : isBlank c = false := by
  have range : 48 ≤ c.toNat ∧ c.toNat ≤ 57 := by
    simpa [Char.isDigit, UInt32.le_iff_toNat_le] using digit
  simp only [isBlank, Bool.or_eq_false_iff, Bool.and_eq_false_iff, decide_eq_false_iff_not,
    beq_eq_false_iff_ne]
  omega

/-- Trimming leaves a text alone that has no blank characters. -/
theorem trim_eq_self {text : Text} (noBlank : ∀ c ∈ text, isBlank c = false) : trim text = text := by
  have leftAlone : ∀ other : Text, (∀ c ∈ other, isBlank c = false) → trimLeft other = other := by
    intro other noBlank
    cases other with
    | nil => rfl
    | cons c rest => simp [trimLeft, noBlank c List.mem_cons_self]
  rw [trim, leftAlone text noBlank, trimRight,
    leftAlone text.reverse fun c member => noBlank c (List.mem_reverse.mp member), List.reverse_reverse]

end Text

/-! ## Layouts -/

namespace Alignment

theorem ofMark?_mark (alignment : Alignment) : ofMark? alignment.mark = some alignment :=
  (ofMark?_eq_some_iff _ _).mpr rfl

theorem isBlank_mark (alignment : Alignment) : Text.isBlank alignment.mark = false := by
  cases alignment <;> decide

end Alignment

namespace Layout

/-- A layout that is written in full is read back, unless its width has too many digits. -/
theorem read?_write {layout : Layout}
    (short : (Numeral.decimal layout.width).length ≤ Numeral.digitLimit) :
    read? layout.write = some layout := by
  have notBlank : Text.isAllBlank layout.write = false := by
    simp [write, Text.isAllBlank, Alignment.isBlank_mark]
  have placed : placement layout.write =
      (layout.alignment, layout.pad, Numeral.decimal layout.width) := by
    simp [write, placement, Alignment.ofMark?_mark]
  have digits : ∀ c ∈ Numeral.decimal layout.width, c.isDigit = true :=
    fun c member => Numeral.isDigit_of_mem_decimal member
  simp only [read?, notBlank, placed, Numeral.leading_eq_self digits, Numeral.afterLeading_eq_nil digits,
    Numeral.read?_decimal short, Bool.false_eq_true, if_false]
  simp [Numeral.decimal_ne_nil, Text.isAllBlank]

/-- The pad of a placement is a space, unless it is the first character. -/
theorem pad_placement (text : Text) :
    (placement text).2.1 = ' ' ∨ (placement text).2.1 ∈ text := by
  unfold placement
  split
  · split
    · exact Or.inr List.mem_cons_self
    · split
      · exact Or.inl rfl
      · exact Or.inl rfl
  · split
    · exact Or.inl rfl
    · exact Or.inl rfl
  · exact Or.inl rfl

/-- The pad of a layout is a space, unless it was taken from the text. -/
theorem pad_of_read? {text : Text} {layout : Layout} (found : read? text = some layout) :
    layout.pad = ' ' ∨ layout.pad ∈ text := by
  unfold read? at found
  split at found
  · cases found
    exact Or.inl rfl
  · dsimp only at found
    split at found
    · cases found
    · split at found
      · cases found
      · split at found
        · cases found
          exact pad_placement text
        · cases found

end Layout
end FieldText
