import FieldText.Proofs.Layouts
import FieldText.Proofs.Pieces
import Mathlib.Data.Nat.Digits.Defs

/-!
The texts that are layouts.  A layout is written in one of three forms: blanks alone, a mark and a width
with or without a pad in front, or a width alone.  Only the last has room for blanks in front, but any of
them may end in blanks.  The pad can be any character, also a digit, a mark or a blank, and so the forms
look alike at their beginning.  They are still never confused: a text has at most one form, and it is read
as a layout if and only if it has one.

What settles the form is the first two characters.  `Form.ofText` reads them, without regard to whether the
rest makes sense.  It gives back every form that makes sense from the text of it, so there is no other.
-/

namespace FieldText

namespace Numeral

/-- The number that a text of decimal digits denotes is the sum of its digits, each times the power of ten
that belongs to its place. -/
theorem value_eq_ofDigits (digits : Text) :
    value digits = Nat.ofDigits 10 (digits.reverse.map digitValue) := by
  rw [Nat.ofDigits_eq_foldr, List.foldr_map, List.foldr_reverse, value]
  simp only [Nat.cast_id, Nat.add_comm]

/-- The digits in front of blanks, and the blanks behind them. -/
theorem leading_append_blanks {digits blanks : Text} (all : ∀ c ∈ digits, c.isDigit = true)
    (blank : Text.isAllBlank blanks = true) :
    leading (digits ++ blanks) = digits ∧ afterLeading (digits ++ blanks) = blanks := by
  cases blanks with
  | nil => rw [List.append_nil]; exact Text.cut_of_all all
  | cons c rest =>
      have isBlank : Text.isBlank c = true := (Text.isAllBlank_iff _).mp blank c List.mem_cons_self
      have noDigit : c.isDigit = false := by
        by_contra digit
        rw [Bool.not_eq_false] at digit
        exact Bool.false_ne_true ((Text.isBlank_of_isDigit digit).symm.trans isBlank)
      exact Text.cut_append all c noDigit rest

end Numeral

theorem Alignment.ofMark?_of_isDigit {c : Char} (digit : c.isDigit = true) : ofMark? c = none := by
  rw [Option.eq_none_iff_forall_ne_some]
  intro alignment isMark
  rw [ofMark?_eq_some_iff] at isMark
  subst isMark
  cases alignment <;> cases digit

theorem Alignment.ofMark?_of_isBlank {c : Char} (blank : Text.isBlank c = true) : ofMark? c = none := by
  rw [Option.eq_none_iff_forall_ne_some]
  intro alignment isMark
  rw [ofMark?_eq_some_iff] at isMark
  subst isMark
  exact Bool.false_ne_true (alignment.isBlank_mark.symm.trans blank)

namespace Layout

/-! ## Forms -/

/-- A way in which a layout can be written. -/
inductive Form where
  /-- Blanks alone. -/
  | blank (blanks : Text)
  /-- A mark and a width, possibly with a pad in front, and then blanks. -/
  | marked (pad : Option Char) (alignment : Alignment) (digits blanks : Text)
  /-- A width between blanks. -/
  | bare (front digits blanks : Text)

namespace Form

/-- What is written. -/
def text : Form → Text
  | blank blanks => blanks
  | marked pad alignment digits blanks => pad.toList ++ alignment.mark :: (digits ++ blanks)
  | bare front digits blanks => front ++ (digits ++ blanks)

/-- The number of columns that digits stand for. -/
def columns (digits : Text) : Nat := Nat.ofDigits 10 (digits.reverse.map Numeral.digitValue)

/-- The layout that is meant. -/
def layout : Form → Layout
  | blank _ => unpadded
  | marked pad alignment digits _ => ⟨alignment, columns digits, pad.getD ' '⟩
  | bare _ digits _ => ⟨.right, columns digits, ' '⟩

/-- A width has at least one digit, and no more than can be converted. -/
structure IsWidth (digits : Text) : Prop where
  nonempty : digits ≠ []
  short : digits.length ≤ Numeral.digitLimit
  digits : ∀ c ∈ digits, c.isDigit = true

/-- The digits are a width, and what should be blank is blank. -/
def IsValid : Form → Prop
  | blank blanks => Text.isAllBlank blanks = true
  | marked _ _ digits blanks => IsWidth digits ∧ Text.isAllBlank blanks = true
  | bare front digits blanks =>
    Text.isAllBlank front = true ∧ IsWidth digits ∧ Text.isAllBlank blanks = true

/-! ## The form of a text -/

/-- The form that a text without marks at its beginning can have. -/
def ofUnmarked (text : Text) : Form :=
  if Text.isAllBlank text then blank text
  else
    let rest := Text.trimLeft text
    bare (text.takeWhile Text.isBlank) (Numeral.leading rest) (Numeral.afterLeading rest)

/-- The form that a text can have, as its first two characters say. -/
def ofText : Text → Form
  | first :: second :: rest =>
    match Alignment.ofMark? second with
    | some alignment =>
      marked (some first) alignment (Numeral.leading rest) (Numeral.afterLeading rest)
    | none =>
      match Alignment.ofMark? first with
      | some alignment =>
        marked none alignment (Numeral.leading (second :: rest)) (Numeral.afterLeading (second :: rest))
      | none => ofUnmarked (first :: second :: rest)
  | [only] =>
    match Alignment.ofMark? only with
    | some alignment => marked none alignment [] []
    | none => ofUnmarked [only]
  | [] => ofUnmarked []

theorem text_ofUnmarked (text : Text) : (ofUnmarked text).text = text := by
  unfold ofUnmarked
  split
  · rfl
  · simp only [Form.text, Numeral.leading_append_afterLeading]
    exact List.takeWhile_append_dropWhile

/-- Nothing of a text is lost in its form. -/
theorem text_ofText (text : Text) : (ofText text).text = text := by
  unfold ofText
  split
  · split
    · next mark =>
        rw [Alignment.ofMark?_eq_some_iff] at mark
        simp [Form.text, Numeral.leading_append_afterLeading, mark]
    · split
      · next mark =>
          rw [Alignment.ofMark?_eq_some_iff] at mark
          simp [Form.text, Numeral.leading_append_afterLeading, mark]
      · exact text_ofUnmarked _
  · split
    · next mark =>
        rw [Alignment.ofMark?_eq_some_iff] at mark
        simp [Form.text, mark]
    · exact text_ofUnmarked _
  · exact text_ofUnmarked _

theorem ofText_of_no_mark {text : Text} (noMark : ∀ c ∈ text, Alignment.ofMark? c = none) :
    ofText text = ofUnmarked text := by
  unfold ofText
  split
  · rw [List.forall_mem_cons, List.forall_mem_cons] at noMark
    rw [noMark.1, noMark.2.1]
  · rw [List.forall_mem_singleton] at noMark
    rw [noMark]
  · rfl

/-- A valid form is found again in its text. -/
theorem ofText_text {form : Form} (valid : form.IsValid) : ofText form.text = form := by
  cases form with
  | blank blanks =>
      have allBlank := (Text.isAllBlank_iff _).mp valid
      have noMark : ∀ c ∈ blanks, Alignment.ofMark? c = none := fun c member =>
        Alignment.ofMark?_of_isBlank (allBlank c member)
      have isBlank : Text.isAllBlank blanks = true := valid
      rw [text, ofText_of_no_mark noMark, ofUnmarked, if_pos isBlank]
  | marked pad alignment digits blanks =>
      rcases valid with ⟨width, blank⟩
      rcases Numeral.leading_append_blanks width.digits blank with ⟨leading, behind⟩
      cases pad with
      | some pad => simp [text, ofText, Alignment.ofMark?_mark, leading, behind]
      | none =>
          -- The mark comes first, and no other follows it, because there is a digit in second place.
          rcases List.exists_cons_of_ne_nil width.nonempty with ⟨digit, others, rfl⟩
          have noMark := Alignment.ofMark?_of_isDigit (width.digits digit List.mem_cons_self)
          rw [List.cons_append] at leading behind
          simp [text, ofText, Alignment.ofMark?_mark, noMark, leading, behind]
  | bare front digits blanks =>
      rcases valid with ⟨blankFront, width, blank⟩
      have allBlank := (Text.isAllBlank_iff _).mp blankFront
      have noMark : ∀ c ∈ front ++ (digits ++ blanks), Alignment.ofMark? c = none := by
        intro c member
        rw [List.mem_append, List.mem_append] at member
        rcases member with before | digit | behind
        · exact Alignment.ofMark?_of_isBlank (allBlank c before)
        · exact Alignment.ofMark?_of_isDigit (width.digits c digit)
        · exact Alignment.ofMark?_of_isBlank ((Text.isAllBlank_iff _).mp blank c behind)
      rcases Numeral.leading_append_blanks width.digits blank with ⟨leading, behind⟩
      -- The first digit ends the blanks in front.
      rcases List.exists_cons_of_ne_nil width.nonempty with ⟨digit, others, rfl⟩
      have notBlank := Text.isBlank_of_isDigit (width.digits digit List.mem_cons_self)
      rcases Text.cut_append allBlank digit notBlank (others ++ blanks) with ⟨before, after⟩
      have someDigit : Text.isAllBlank (front ++ (digit :: others ++ blanks)) = false := by
        simp [Text.isAllBlank, notBlank]
      rw [List.cons_append] at someDigit leading behind noMark
      simp only [text, List.cons_append]
      rw [ofText_of_no_mark noMark, ofUnmarked, if_neg (Bool.eq_false_iff.mp someDigit)]
      simp only [Text.trimLeft, before, after, leading, behind]

end Form

/-! ## Reading -/

/-- Behind a placement there have to be a width and blanks. -/
theorem read?_eq_some_iff_of_placement {text : Text} (notBlank : Text.isAllBlank text = false)
    {alignment : Alignment} {pad : Char} {rest : Text} (placed : placement text = (alignment, pad, rest))
    (layout : Layout) :
    read? text = some layout ↔
      (Form.IsWidth (Numeral.leading rest) ∧ Text.isAllBlank (Numeral.afterLeading rest) = true) ∧
        ⟨alignment, Form.columns (Numeral.leading rest), pad⟩ = layout := by
  have digits : ∀ c ∈ Numeral.leading rest, c.isDigit = true := fun _ => Numeral.isDigit_of_mem_leading
  simp only [read?, notBlank, placed, Bool.false_eq_true, if_false, List.isEmpty_iff, Numeral.read?,
    Numeral.value_eq_ofDigits]
  by_cases empty : Numeral.leading rest = []
  · have noWidth : ¬ Form.IsWidth [] := fun width => width.nonempty rfl
    simp [empty, noWidth]
  · by_cases short : (Numeral.leading rest).length ≤ Numeral.digitLimit
    · have width : Form.IsWidth (Numeral.leading rest) := ⟨empty, short, digits⟩
      simp [empty, short, width, Form.columns]
    · have noWidth : ¬ Form.IsWidth (Numeral.leading rest) := fun width => short width.short
      simp [empty, short, noWidth]

theorem read?_eq_some_iff_ofUnmarked {text : Text}
    (placed : placement text = (.right, ' ', Text.trimLeft text)) (layout : Layout) :
    read? text = some layout ↔
      (Form.ofUnmarked text).IsValid ∧ (Form.ofUnmarked text).layout = layout := by
  unfold Form.ofUnmarked
  split
  · next isBlank => simp [read?, isBlank, Form.IsValid, Form.layout]
  · next notBlank =>
      rw [read?_eq_some_iff_of_placement (Bool.eq_false_iff.mpr notBlank) placed]
      have blankFront : Text.isAllBlank (text.takeWhile Text.isBlank) = true :=
        (Text.isAllBlank_iff _).mpr fun c member => List.mem_takeWhile_imp member
      simp [Form.IsValid, Form.layout, blankFront]

/-- A text is read by its form. -/
theorem read?_eq_some_iff_ofText (text : Text) (layout : Layout) :
    read? text = some layout ↔ (Form.ofText text).IsValid ∧ (Form.ofText text).layout = layout := by
  -- A text with a mark in it is not blank, so each branch with a mark is that of a placement.
  have notBlank : ∀ {c : Char} {alignment : Alignment}, c ∈ text → Alignment.ofMark? c = some alignment →
      Text.isAllBlank text = false := by
    intro c alignment member mark
    rw [Bool.eq_false_iff]
    intro blank
    cases mark.symm.trans (Alignment.ofMark?_of_isBlank ((Text.isAllBlank_iff _).mp blank c member))
  unfold Form.ofText
  split
  · next first second rest =>
      split
      · next alignment mark =>
          exact read?_eq_some_iff_of_placement (notBlank (by simp) mark) (by simp [placement, mark]) layout
      · next noSecond =>
          split
          · next alignment mark =>
              exact read?_eq_some_iff_of_placement (notBlank (by simp) mark)
                (by simp [placement, noSecond, mark]) layout
          · next noFirst =>
              exact read?_eq_some_iff_ofUnmarked (by simp [placement, noSecond, noFirst]) layout
  · next only =>
      split
      · next alignment mark =>
          have placed : placement [only] = (alignment, ' ', []) := by simp [placement, mark]
          exact read?_eq_some_iff_of_placement (notBlank (by simp) mark) placed layout
      · next noMark => exact read?_eq_some_iff_ofUnmarked (by simp [placement, noMark]) layout
  · exact read?_eq_some_iff_ofUnmarked rfl layout

/-- What is written in a valid form is read as what it means. -/
theorem read?_text {form : Form} (valid : form.IsValid) : read? form.text = some form.layout := by
  rw [read?_eq_some_iff_ofText, Form.ofText_text valid]
  exact ⟨valid, rfl⟩

/-- A text is read as a layout if and only if it is written in a valid form that means this layout, and no
text is written in two valid forms. -/
theorem read?_eq_some_iff_form (text : Text) :
    (∀ layout, read? text = some layout ↔
      ∃ form : Form, form.IsValid ∧ form.text = text ∧ form.layout = layout) ∧
    {form : Form | form.IsValid ∧ form.text = text}.Subsingleton := by
  constructor
  · intro layout
    rw [read?_eq_some_iff_ofText]
    constructor
    · rintro ⟨valid, meant⟩
      exact ⟨Form.ofText text, valid, Form.text_ofText text, meant⟩
    · rintro ⟨form, valid, rfl, meant⟩
      rw [Form.ofText_text valid]
      exact ⟨valid, meant⟩
  · rintro form ⟨valid, rfl⟩ other ⟨validOther, same⟩
    rw [← Form.ofText_text valid, ← Form.ofText_text validOther, same]

/-- A mark in front of another is a pad, and so is a digit in front of a mark. -/
example : read? "--7 ".toList = some ⟨.left, 7, '-'⟩ ∧ read? "1=20".toList = some ⟨.center, 20, '1'⟩ := by
  decide

end Layout
end FieldText
