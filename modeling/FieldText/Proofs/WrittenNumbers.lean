import FieldText.Number.Literal
import FieldText.Proofs.Pieces

/-!
The texts that are floating-point numbers.  A number is a sign, which can be left out, and behind it a word
for an infinity or for no number, or a decimal.  A decimal has digits, a point that can stand in front of
them, among them or behind them, and an exponent that can be left out.  Underscores are allowed in it where
a digit stands on either side.

The relations below say which texts these are and which number is written.  They do so part by part, by how
the text is put together from its parts, and the reader takes it apart in the same places.
-/

namespace FieldText

theorem Numeral.isNumeral_iff (digits : Text) :
    isNumeral digits = true ↔ digits ≠ [] ∧ ∀ c ∈ digits, c.isDigit = true := by
  simp [isNumeral]

theorem Text.toLower_of_isDigit {c : Char} (digit : c.isDigit = true) : c.toLower = c := by
  have noLetter : ¬ (65 ≤ c.val ∧ c.val ≤ 90) := by
    simp only [Char.isDigit, Bool.and_eq_true, decide_eq_true_eq, UInt32.le_iff_toNat_le] at digit ⊢
    exact fun capital => absurd (Nat.le_trans capital.1 digit.2) (by decide)
  exact dif_neg noLetter

namespace Literal

/-! ## Signs -/

/-- The ways to write a sign, and whether it makes the number negative. -/
def signs : List (Text × Bool) := [([], false), (['+'], false), (['-'], true)]

/-- The integer of a magnitude and a sign. -/
def withSign (negative : Bool) (magnitude : Nat) : Int := if negative then -(magnitude : Int) else magnitude

theorem exists_sign (text : Text) :
    ∃ sign, (sign, (takeSign text).1) ∈ signs ∧ text = sign ++ (takeSign text).2 := by
  unfold takeSign
  split
  · exact ⟨['-'], by simp [signs], rfl⟩
  · exact ⟨['+'], by simp [signs], rfl⟩
  · exact ⟨[], by simp [signs], rfl⟩

theorem takeSign_append {sign rest : Text} {negative : Bool} (signed : (sign, negative) ∈ signs)
    (unsigned : ∀ c ∈ rest.head?, c ≠ '-' ∧ c ≠ '+') : takeSign (sign ++ rest) = (negative, rest) := by
  simp only [signs, List.mem_cons, Prod.mk.injEq, List.not_mem_nil, or_false] at signed
  rcases signed with ⟨rfl, rfl⟩ | ⟨rfl, rfl⟩ | ⟨rfl, rfl⟩
  · unfold takeSign
    split
    · next same => exact ((unsigned '-' (by rw [← List.nil_append rest, same]; rfl)).1 rfl).elim
    · next same => exact ((unsigned '+' (by rw [← List.nil_append rest, same]; rfl)).2 rfl).elim
    · rfl
  · rfl
  · rfl

/-- A character is no sign if something holds of it that holds of neither sign. -/
theorem ne_sign (holds : Char → Prop) {c : Char} (held : holds c) (notMinus : ¬ holds '-')
    (notPlus : ¬ holds '+') : c ≠ '-' ∧ c ≠ '+' :=
  ⟨fun same => notMinus (same ▸ held), fun same => notPlus (same ▸ held)⟩

theorem unsigned_of_digits {digits : Text} (all : ∀ c ∈ digits, c.isDigit = true) :
    ∀ c ∈ digits.head?, c ≠ '-' ∧ c ≠ '+' := fun c head =>
  ne_sign (fun c => c.isDigit = true) (all c (List.mem_of_mem_head? head)) (by decide) (by decide)

/-! ## Underscores -/

/-- Whether a text ends in an ASCII digit. -/
def endsWithDigit (text : Text) : Bool := beginsWithDigit text.reverse

theorem endsWithDigit_append_singleton (text : Text) (c : Char) :
    endsWithDigit (text ++ [c]) = c.isDigit := by
  simp [endsWithDigit, beginsWithDigit]

/-- Every underscore of a text stands between two digits, when there is some text in front. -/
def JoinsDigitsBehind (before text : Text) : Prop :=
  ∀ front back, text = front ++ '_' :: back →
    endsWithDigit (before ++ front) = true ∧ beginsWithDigit back = true

/-- Every underscore stands between two digits. -/
def JoinsDigits (text : Text) : Prop :=
  ∀ front back, text = front ++ '_' :: back → endsWithDigit front = true ∧ beginsWithDigit back = true

theorem joinsDigitsBehind_nil_iff (text : Text) : JoinsDigitsBehind [] text ↔ JoinsDigits text := Iff.rfl

theorem joinsDigitsBehind_cons_iff (before : Text) (c : Char) (rest : Text) :
    JoinsDigitsBehind before (c :: rest) ↔
      (c = '_' → endsWithDigit before = true ∧ beginsWithDigit rest = true) ∧
        JoinsDigitsBehind (before ++ [c]) rest := by
  constructor
  · refine fun joins => ⟨fun same => ?_, fun front back same => ?_⟩
    · have first := joins [] rest (by rw [same]; rfl)
      rwa [List.append_nil] at first
    · have later := joins (c :: front) back (by rw [same]; rfl)
      rwa [List.append_assoc, List.singleton_append]
  · rintro ⟨first, later⟩ front back same
    cases front with
    | nil =>
        rw [List.nil_append, List.cons.injEq] at same
        rcases same with ⟨rfl, rfl⟩
        rw [List.append_nil]
        exact first rfl
    | cons d front =>
        rw [List.cons_append, List.cons.injEq] at same
        rcases same with ⟨rfl, same⟩
        have behind := later front back same
        rwa [List.append_assoc, List.singleton_append] at behind

/-- The underscores are removed if and only if each of them stands between two digits. -/
theorem withoutUnderscores?_eq_some_iff (before text plain : Text) :
    withoutUnderscores? (endsWithDigit before) text = some plain ↔
      JoinsDigitsBehind before text ∧ text.filter (· ≠ '_') = plain := by
  induction text generalizing before plain with
  | nil => simp [withoutUnderscores?, JoinsDigitsBehind]
  | cons c rest inductionHypothesis =>
      have behind := inductionHypothesis (before ++ [c])
      rw [endsWithDigit_append_singleton] at behind
      rw [joinsDigitsBehind_cons_iff]
      by_cases underscore : c = '_'
      · subst underscore
        have noDigit : Char.isDigit '_' = false := rfl
        rw [noDigit] at behind
        by_cases between : endsWithDigit before = true ∧ beginsWithDigit rest = true
        · simp [withoutUnderscores?, between, behind]
        · simp [withoutUnderscores?, between]
      · rw [withoutUnderscores?, if_neg underscore, Option.map_eq_some_iff]
        simp only [behind, underscore, List.filter_cons, ne_eq, not_false_eq_true, decide_true, if_true,
          false_implies, true_and, and_assoc, exists_and_left, exists_eq_left']

/-! ## Decimals -/

/-- What follows the digits of a decimal: nothing, or an exponent. -/
inductive WritesExponent : Text → Int → Prop
  | leftOut : WritesExponent [] 0
  | given {mark : Char} {sign digits : Text} {negative : Bool} (letter : mark = 'e' ∨ mark = 'E')
      (signed : (sign, negative) ∈ signs) (numeral : Numeral.isNumeral digits = true) :
      WritesExponent (mark :: (sign ++ digits)) (withSign negative (Numeral.value digits))

/-- Digits, at least one of them, with or without a point, and then an exponent.  Every digit behind the
point makes the power of ten smaller by one. -/
inductive WritesDecimal : Text → Decimal → Prop
  | whole {digits behind : Text} {exponent : Int} (all : ∀ c ∈ digits, c.isDigit = true)
      (some : digits ≠ []) (written : WritesExponent behind exponent) :
      WritesDecimal (digits ++ behind) ⟨digits, exponent⟩
  | pointed {digits fraction behind : Text} {exponent : Int} (all : ∀ c ∈ digits, c.isDigit = true)
      (allBehind : ∀ c ∈ fraction, c.isDigit = true) (some : digits ++ fraction ≠ [])
      (written : WritesExponent behind exponent) :
      WritesDecimal (digits ++ '.' :: (fraction ++ behind)) ⟨digits ++ fraction, exponent - fraction.length⟩

theorem readExponent?_eq_some_iff (text : Text) (exponent : Int) :
    readExponent? text = some exponent ↔ WritesExponent text exponent := by
  constructor
  · intro read
    cases text with
    | nil =>
        cases read
        exact .leftOut
    | cons mark rest =>
        simp only [readExponent?, Option.ite_none_right_eq_some, Option.some.injEq, Bool.or_eq_true,
          decide_eq_true_eq] at read
        rcases read with ⟨letter, numeral, rfl⟩
        rcases exists_sign rest with ⟨sign, signed, same⟩
        have written := WritesExponent.given letter signed numeral
        rwa [← same] at written
  · rintro (_ | ⟨letter, signed, numeral⟩)
    · rfl
    · have unsigned := unsigned_of_digits ((Numeral.isNumeral_iff _).mp numeral).2
      simp only [readExponent?, takeSign_append signed unsigned, numeral, if_true]
      rcases letter with rfl | rfl <;> rfl

/-- No exponent begins with a digit or a point, so it is clear where the digits in front of it end. -/
theorem WritesExponent.cut {digits behind : Text} {exponent : Int} (written : WritesExponent behind exponent)
    (all : ∀ c ∈ digits, c.isDigit = true) :
    Numeral.leading (digits ++ behind) = digits ∧ Numeral.afterLeading (digits ++ behind) = behind ∧
      ∀ rest, behind ≠ '.' :: rest := by
  cases written with
  | leftOut =>
      rw [List.append_nil]
      exact ⟨(Text.cut_of_all all).1, (Text.cut_of_all all).2, nofun⟩
  | given letter signed numeral =>
      rcases letter with rfl | rfl
      · exact ⟨(Text.cut_append all 'e' rfl _).1, (Text.cut_append all 'e' rfl _).2, by simp⟩
      · exact ⟨(Text.cut_append all 'E' rfl _).1, (Text.cut_append all 'E' rfl _).2, by simp⟩

theorem readDecimal?_of_point {text behind : Text} (point : Numeral.afterLeading text = '.' :: behind) :
    readDecimal? text =
      if Numeral.leading text ++ Numeral.leading behind = [] then none
      else (readExponent? (Numeral.afterLeading behind)).map fun exponent =>
        ⟨Numeral.leading text ++ Numeral.leading behind, exponent - (Numeral.leading behind).length⟩ := by
  simp only [readDecimal?, point, List.isEmpty_iff]

theorem readDecimal?_of_no_point {text : Text} (noPoint : ∀ rest, Numeral.afterLeading text ≠ '.' :: rest) :
    readDecimal? text =
      if Numeral.leading text = [] then none
      else (readExponent? (Numeral.afterLeading text)).map fun exponent =>
        ⟨Numeral.leading text, exponent⟩ := by
  unfold readDecimal?
  split
  next fraction rest cut =>
    split at cut
    · next behind point => exact (noPoint behind point).elim
    · cases cut
      simp

theorem readDecimal?_eq_some_iff (text : Text) (decimal : Decimal) :
    readDecimal? text = some decimal ↔ WritesDecimal text decimal := by
  constructor
  · intro read
    have digits : ∀ c ∈ Numeral.leading text, c.isDigit = true := fun _ => Numeral.isDigit_of_mem_leading
    by_cases point : ∃ behind, Numeral.afterLeading text = '.' :: behind
    · rcases point with ⟨behind, point⟩
      rw [readDecimal?_of_point point, Option.ite_none_left_eq_some, Option.map_eq_some_iff] at read
      rcases read with ⟨some, exponent, read, rfl⟩
      have written := WritesDecimal.pointed digits (fun _ => Numeral.isDigit_of_mem_leading) some
        ((readExponent?_eq_some_iff _ _).mp read)
      rwa [Numeral.leading_append_afterLeading, ← point, Numeral.leading_append_afterLeading] at written
    · rw [readDecimal?_of_no_point (not_exists.mp point), Option.ite_none_left_eq_some,
        Option.map_eq_some_iff] at read
      rcases read with ⟨some, exponent, read, rfl⟩
      have written := WritesDecimal.whole digits some ((readExponent?_eq_some_iff _ _).mp read)
      rwa [Numeral.leading_append_afterLeading] at written
  · rintro (⟨all, some, written⟩ | ⟨all, allBehind, some, written⟩)
    · rcases written.cut all with ⟨leading, behind, noPoint⟩
      rw [← behind] at noPoint
      rw [readDecimal?_of_no_point noPoint, leading, behind, if_neg some,
        (readExponent?_eq_some_iff _ _).mpr written]
      rfl
    · rcases written.cut allBehind with ⟨leadingBehind, behind, _⟩
      rcases Text.cut_append all '.' rfl _ with ⟨leading, point⟩
      rw [readDecimal?_of_point point, Numeral.leading, leading, leadingBehind, behind, if_neg some,
        (readExponent?_eq_some_iff _ _).mpr written]
      rfl

/-! ## Numbers -/

/-- A number behind its sign. -/
inductive WritesUnsigned (negative : Bool) (text : Text) : Double → Prop
  | infinite (word : Text.lower text ∈ ["inf".toList, "infinity".toList]) :
      WritesUnsigned negative text (.infinite negative)
  | nan (word : Text.lower text = "nan".toList) : WritesUnsigned negative text .nan
  | decimal {decimal : Decimal} (written : WritesDecimal text decimal) :
      WritesUnsigned negative text (decimal.toDouble negative)

/-- A text writes a floating-point number.  White space around it is dropped, and the digits of all scripts
count as the plain ones. -/
def Writes (text : Text) (number : Double) : Prop :=
  let plain := (stripSpace text).map DigitClass.toPlain
  JoinsDigits plain ∧ ∃ sign negative rest, (sign, negative) ∈ signs ∧
    plain.filter (· ≠ '_') = sign ++ rest ∧ WritesUnsigned negative rest number

/-- A decimal begins with a digit or a point. -/
theorem WritesDecimal.head {text : Text} {decimal : Decimal} (written : WritesDecimal text decimal) :
    ∃ c rest, text = c :: rest ∧ (c.isDigit = true ∨ c = '.') := by
  cases written with
  | whole all some _ =>
      rcases List.exists_cons_of_ne_nil some with ⟨c, rest, rfl⟩
      exact ⟨c, _, List.cons_append, .inl (all c List.mem_cons_self)⟩
  | @pointed digits _ _ _ all _ _ _ =>
      cases digits with
      | nil => exact ⟨'.', _, rfl, .inr rfl⟩
      | cons c rest => exact ⟨c, _, List.cons_append, .inl (all c List.mem_cons_self)⟩

/-- The words begin with letters, which no decimal does. -/
theorem WritesDecimal.lower_not_mem {text : Text} {decimal : Decimal} (written : WritesDecimal text decimal) :
    Text.lower text ∉ ["inf".toList, "infinity".toList, "nan".toList] := by
  rcases written.head with ⟨c, rest, rfl, head⟩
  have small : c.toLower = c := by
    rcases head with digit | rfl
    · exact Text.toLower_of_isDigit digit
    · rfl
  have noLetter : c ≠ 'i' ∧ c ≠ 'n' := by
    constructor
    · rintro rfl
      exact absurd head (by decide)
    · rintro rfl
      exact absurd head (by decide)
  rw [Text.lower, List.map_cons, small]
  simp [noLetter]

theorem readUnsigned?_eq_some_iff (negative : Bool) (text : Text) (number : Double) :
    readUnsigned? negative text = some number ↔ WritesUnsigned negative text number := by
  constructor
  · intro read
    simp only [readUnsigned?] at read
    split at read
    · next word =>
        cases read
        exact .infinite (by simpa using word)
    · split at read
      · next word =>
          cases read
          exact .nan (by simpa using word)
      · rcases Option.map_eq_some_iff.mp read with ⟨decimal, readBehind, rfl⟩
        exact .decimal ((readDecimal?_eq_some_iff _ _).mp readBehind)
  · rintro (word | word | written)
    · have isWord : (Text.lower text == "inf".toList || Text.lower text == "infinity".toList) = true := by
        simpa using word
      simp only [readUnsigned?, isWord, if_true]
    · simp only [readUnsigned?, word]
      rfl
    · have noWord := written.lower_not_mem
      simp only [List.mem_cons, List.not_mem_nil, or_false, not_or, ← beq_eq_false_iff_ne] at noWord
      rcases noWord with ⟨notInf, notInfinity, notNan⟩
      simp only [readUnsigned?, notInf, notInfinity, notNan, Bool.or_self, Bool.false_eq_true, if_false,
        (readDecimal?_eq_some_iff _ _).mpr written, Option.map_some]

/-- What stands behind a sign does not begin with another. -/
theorem WritesUnsigned.unsigned {negative : Bool} {text : Text} {number : Double}
    (written : WritesUnsigned negative text number) : ∀ c ∈ text.head?, c ≠ '-' ∧ c ≠ '+' := by
  intro c head
  rcases List.head?_eq_some_iff.mp head with ⟨rest, rfl⟩
  cases written with
  | infinite word =>
      exact ne_sign (fun c => Text.lower (c :: rest) ∈ ["inf".toList, "infinity".toList]) word
        (by simp [Text.lower]) (by simp [Text.lower])
  | nan word =>
      exact ne_sign (fun c => Text.lower (c :: rest) = "nan".toList) word
        (by simp [Text.lower]) (by simp [Text.lower])
  | decimal written =>
      rcases written.head with ⟨_, _, same, first⟩
      cases same
      exact ne_sign (fun c => c.isDigit = true ∨ c = '.') first (by decide) (by decide)

/-- A text is read as a number if and only if it writes this number. -/
theorem read?_eq_some_iff (text : Text) (number : Double) : read? text = some number ↔ Writes text number := by
  have removed := withoutUnderscores?_eq_some_iff [] ((stripSpace text).map DigitClass.toPlain)
  rw [show endsWithDigit [] = false from rfl] at removed
  simp only [read?, Option.bind_eq_some_iff, removed, joinsDigitsBehind_nil_iff, readUnsigned?_eq_some_iff]
  constructor
  · rintro ⟨plain, ⟨joins, rfl⟩, written⟩
    rcases exists_sign (((stripSpace text).map DigitClass.toPlain).filter (· ≠ '_')) with ⟨sign, signed, same⟩
    exact ⟨joins, sign, _, _, signed, same, written⟩
  · rintro ⟨joins, sign, negative, rest, signed, same, written⟩
    refine ⟨_, ⟨joins, rfl⟩, ?_⟩
    rw [same, takeSign_append signed written.unsigned]
    exact written

end Literal
end FieldText
