import FieldText.Coercion
import FieldText.Proofs.Degradations
import FieldText.Proofs.Layouts
import FieldText.Proofs.Unfoldings
import FieldText.Proofs.WrittenNumbers

/-!
What argument texts are coerced to.  Every text stands for exactly one scalar, whatever characters it has.
Words for booleans come first, then integers, then floating-point numbers, and a text that is none of these
stands for itself, with the blanks around it.  The three have different notions of a digit: a figure of ASCII
makes an integer, a figure of any script can make a floating-point number, and a superscript makes neither
but has the text looked at.

An integer of too many digits cannot be converted.  It still stands for a number, as a decimal does, but it
is not coerced to that number: coercion breaks off, and no argument gets a value.  This is the only way in
which coercion fails.
-/

namespace FieldText

theorem DigitClass.isDigitCharacter_of_isDigit {c : Char} (digit : c.isDigit = true) :
    isDigitCharacter c = true := by
  have figure : (0x30 ≤ c.toNat && c.toNat < 0x30 + 10) = true := by
    simp only [Char.isDigit, Bool.and_eq_true, decide_eq_true_eq, UInt32.le_iff_toNat_le] at digit ⊢
    exact ⟨digit.1, Nat.lt_succ_of_le digit.2⟩
  simp only [isDigitCharacter, decimalValue?, zeros, List.find?_cons, figure, Option.map_some,
    Option.isSome_some, Bool.true_or]

namespace Coercion

/-! ## What a text stands for -/

/-- The words for a boolean. -/
def words : Bool → List Text
  | true => trueWords
  | false => falseWords

/-- A text is, without the blanks around it, digits of ASCII behind a sign, which can be left out. -/
def WritesInteger (text : Text) (negative : Bool) (digits : Text) : Prop :=
  ∃ sign, (sign, negative) ∈ Literal.signs ∧ Text.trim text = sign ++ digits ∧
    Numeral.isNumeral digits = true

/-- A text has a digit of some kind in it and writes a floating-point number, when the blanks around it and
the commas are dropped. -/
def WritesFloat (text : Text) (number : Double) : Prop :=
  (∃ c ∈ Text.trim text, DigitClass.isDigitCharacter c = true) ∧
    Literal.Writes ((Text.trim text).filter (· ≠ ',')) number

/-- A text is a word for a boolean, in letters of any size and with any blanks around it. -/
def IsWord (text : Text) : Prop := ∃ flag, Text.folded text ∈ words flag

/-- A text is an integer that is short enough to be converted. -/
def IsInteger (text : Text) : Prop :=
  ∃ negative digits, WritesInteger text negative digits ∧ digits.length ≤ Numeral.digitLimit

/-- A text is an integer that is too long to be converted. -/
def IsOverlong (text : Text) : Prop :=
  ∃ negative digits, WritesInteger text negative digits ∧ Numeral.digitLimit < digits.length

/-- What a text stands for.  Each of the cases is only for texts that belong to none before it. -/
inductive StandsFor (text : Text) : Scalar → Prop
  | boolean {flag : Bool} (word : Text.folded text ∈ words flag) : StandsFor text (.boolean flag)
  | integer {negative : Bool} {digits : Text} (noWord : ¬ IsWord text)
      (written : WritesInteger text negative digits) (short : digits.length ≤ Numeral.digitLimit) :
      StandsFor text (.integer (Literal.withSign negative (Numeral.value digits)))
  | float {number : Double} (noWord : ¬ IsWord text) (noInteger : ¬ IsInteger text)
      (written : WritesFloat text number) : StandsFor text (.float number)
  | text (noWord : ¬ IsWord text) (noInteger : ¬ IsInteger text)
      (noFloat : ∀ number, ¬ WritesFloat text number) : StandsFor text (.text text)

/-! ## Integers -/

theorem WritesInteger.takeSign {text digits : Text} {negative : Bool}
    (written : WritesInteger text negative digits) :
    Literal.takeSign (Text.trim text) = (negative, digits) := by
  rcases written with ⟨sign, signed, same, numeral⟩
  rw [same]
  exact Literal.takeSign_append signed (Literal.unsigned_of_digits ((Numeral.isNumeral_iff _).mp numeral).2)

theorem WritesInteger.numeral {text digits : Text} {negative : Bool}
    (written : WritesInteger text negative digits) : Numeral.isNumeral digits = true :=
  written.choose_spec.2.2

/-- Whether a text is an integer is seen behind its sign. -/
theorem writesInteger_of_isNumeral {text : Text}
    (numeral : Numeral.isNumeral (Literal.takeSign (Text.trim text)).2 = true) :
    WritesInteger text (Literal.takeSign (Text.trim text)).1 (Literal.takeSign (Text.trim text)).2 := by
  rcases Literal.exists_sign (Text.trim text) with ⟨sign, signed, same⟩
  exact ⟨sign, signed, same, numeral⟩

/-- An integer has at least one digit. -/
theorem WritesInteger.exists_digit {text digits : Text} {negative : Bool}
    (written : WritesInteger text negative digits) : ∃ c ∈ Text.trim text, c.isDigit = true := by
  rcases written with ⟨sign, _, same, numeral⟩
  rcases (Numeral.isNumeral_iff _).mp numeral with ⟨some, all⟩
  rcases List.exists_mem_of_ne_nil _ some with ⟨c, member⟩
  exact ⟨c, same ▸ List.mem_append_right sign member, all c member⟩

/-- No word has a digit in it. -/
theorem not_isWord_of_digit {text : Text} {c : Char} (member : c ∈ Text.trim text)
    (digit : c.isDigit = true) : ¬ IsWord text := by
  rintro ⟨flag, word⟩
  have letters : (words flag).all (fun word => word.all fun d => !d.isDigit) = true := by
    cases flag <;> rfl
  have small : c ∈ Text.folded text := List.mem_map.mpr ⟨c, member, Text.toLower_of_isDigit digit⟩
  have noDigit := List.all_eq_true.mp (List.all_eq_true.mp letters _ word) c small
  rw [digit] at noDigit
  cases noDigit

theorem WritesInteger.not_isWord {text digits : Text} {negative : Bool}
    (written : WritesInteger text negative digits) : ¬ IsWord text := by
  rcases written.exists_digit with ⟨c, member, digit⟩
  exact not_isWord_of_digit member digit

/-! ## The recognisers -/

theorem boolean?_eq_some_iff (text : Text) (flag : Bool) :
    boolean? text = some flag ↔ Text.folded text ∈ words flag := by
  have disjoint : ∀ word ∈ falseWords, word ∉ trueWords := by decide
  simp only [boolean?, List.contains_iff_mem]
  cases flag with
  | true =>
      by_cases word : Text.folded text ∈ trueWords
      · simp [words, word]
      · simp [words, word]
  | false =>
      by_cases word : Text.folded text ∈ falseWords
      · simp [words, word, disjoint _ word]
      · simp [words, word]

theorem boolean?_eq_none_iff (text : Text) : boolean? text = none ↔ ¬ IsWord text := by
  simp only [Option.eq_none_iff_forall_ne_some, ne_eq, boolean?_eq_some_iff, IsWord, not_exists]

/-- An integer is converted unless it is too long. -/
theorem number?_of_writesInteger {text digits : Text} {negative : Bool}
    (written : WritesInteger text negative digits) :
    number? text =
      if digits.length ≤ Numeral.digitLimit then
        .ok (some (.integer (Literal.withSign negative (Numeral.value digits))))
      else .error .numeralTooLong := by
  rcases written.exists_digit with ⟨c, member, digit⟩
  have someDigit : (Text.trim text).any DigitClass.isDigitCharacter = true :=
    List.any_eq_true.mpr ⟨c, member, DigitClass.isDigitCharacter_of_isDigit digit⟩
  simp only [number?, someDigit, written.takeSign, written.numeral, Bool.not_true, Bool.false_eq_true,
    if_false, if_true, Numeral.read?]
  by_cases short : digits.length ≤ Numeral.digitLimit
  · simp only [short, if_true]
    rfl
  · simp only [short, if_false]

/-- A text that is no integer may be a floating-point number, and is never refused. -/
theorem number?_of_not_writesInteger {text : Text}
    (noInteger : ∀ negative digits, ¬ WritesInteger text negative digits) :
    ∃ number, number? text = .ok (number.map Scalar.float) ∧
      ∀ double, number = some double ↔ WritesFloat text double := by
  have noNumeral : Numeral.isNumeral (Literal.takeSign (Text.trim text)).2 = false := by
    by_contra numeral
    exact noInteger _ _ (writesInteger_of_isNumeral (Bool.not_eq_false _ |>.mp numeral))
  cases someDigit : (Text.trim text).any DigitClass.isDigitCharacter with
  | true =>
      refine ⟨Literal.read? ((Text.trim text).filter (· ≠ ',')), ?_, fun double => ?_⟩
      · simp [number?, someDigit, noNumeral]
      · rw [Literal.read?_eq_some_iff, WritesFloat, ← List.any_eq_true]
        simp [someDigit]
  | false =>
      refine ⟨none, ?_, fun double => ?_⟩
      · simp [number?, someDigit]
      · rw [WritesFloat, ← List.any_eq_true]
        simp [someDigit]

/-! ## Every text stands for one scalar -/

theorem exists_standsFor (text : Text) : ∃ scalar, StandsFor text scalar := by
  by_cases word : IsWord text
  · rcases word with ⟨flag, word⟩
    exact ⟨_, .boolean word⟩
  · by_cases integer : IsInteger text
    · rcases integer with ⟨negative, digits, written, short⟩
      exact ⟨_, .integer word written short⟩
    · by_cases float : ∃ number, WritesFloat text number
      · rcases float with ⟨number, written⟩
        exact ⟨_, .float word integer written⟩
      · exact ⟨_, .text word integer (not_exists.mp float)⟩

theorem WritesFloat.unique {text : Text} {first second : Double} (written : WritesFloat text first)
    (also : WritesFloat text second) : first = second :=
  Option.some.inj (((Literal.read?_eq_some_iff _ _).mpr written.2).symm.trans
    ((Literal.read?_eq_some_iff _ _).mpr also.2))

theorem StandsFor.unique {text : Text} {first second : Scalar} (stands : StandsFor text first)
    (also : StandsFor text second) : first = second := by
  cases stands with
  | boolean word =>
      cases also with
      | boolean other =>
          rw [← boolean?_eq_some_iff] at word other
          rw [Option.some.inj (word.symm.trans other)]
      | integer noWord => exact (noWord ⟨_, word⟩).elim
      | float noWord => exact (noWord ⟨_, word⟩).elim
      | text noWord => exact (noWord ⟨_, word⟩).elim
  | integer noWord written short =>
      cases also with
      | boolean word => exact (noWord ⟨_, word⟩).elim
      | integer _ other _ =>
          cases written.takeSign.symm.trans other.takeSign
          rfl
      | float _ noInteger => exact (noInteger ⟨_, _, written, short⟩).elim
      | text _ noInteger => exact (noInteger ⟨_, _, written, short⟩).elim
  | float noWord noInteger written =>
      cases also with
      | boolean word => exact (noWord ⟨_, word⟩).elim
      | integer _ other short => exact (noInteger ⟨_, _, other, short⟩).elim
      | float _ _ other => rw [written.unique other]
      | text _ _ noFloat => exact (noFloat _ written).elim
  | text noWord noInteger noFloat =>
      cases also with
      | boolean word => exact (noWord ⟨_, word⟩).elim
      | integer _ other short => exact (noInteger ⟨_, _, other, short⟩).elim
      | float _ _ written => exact (noFloat _ written).elim
      | text => rfl

/-! ## Coercion -/

theorem argument_of_isOverlong {text : Text} (overlong : IsOverlong text) :
    argument text = .error .numeralTooLong := by
  rcases overlong with ⟨negative, digits, written, long⟩
  rw [argument, (boolean?_eq_none_iff text).mpr written.not_isWord]
  simp only [number?_of_writesInteger written, if_neg (Nat.not_le_of_lt long)]
  rfl

theorem argument_of_standsFor {text : Text} {scalar : Scalar} (convertible : ¬ IsOverlong text)
    (stands : StandsFor text scalar) : argument text = .ok scalar := by
  -- No integer is left besides those that can be converted.
  have noInteger : ¬ IsInteger text → ∀ negative digits, ¬ WritesInteger text negative digits :=
    fun notShort negative digits written =>
      notShort ⟨negative, digits, written, Nat.le_of_not_lt fun long =>
        convertible ⟨negative, digits, written, long⟩⟩
  cases stands with
  | boolean word =>
      rw [argument, (boolean?_eq_some_iff text _).mpr word]
  | integer noWord written short =>
      rw [argument, (boolean?_eq_none_iff text).mpr noWord]
      simp only [number?_of_writesInteger written, if_pos short]
      rfl
  | float noWord notShort written =>
      rcases number?_of_not_writesInteger (noInteger notShort) with ⟨number, read, accepts⟩
      rw [argument, (boolean?_eq_none_iff text).mpr noWord]
      simp only [read, (accepts _).mpr written]
      rfl
  | text noWord notShort noFloat =>
      rcases number?_of_not_writesInteger (noInteger notShort) with ⟨number, read, accepts⟩
      have nothing : number = none :=
        Option.eq_none_iff_forall_ne_some.mpr fun double same => noFloat double ((accepts double).mp same)
      rw [argument, (boolean?_eq_none_iff text).mpr noWord]
      simp only [read, nothing]
      rfl

/-- Coercion breaks off at an integer that is too long, whatever stands in front of it and behind it. -/
theorem arguments_of_isOverlong {texts : List Text} (overlong : ∃ text ∈ texts, IsOverlong text) :
    arguments true texts = .error .numeralTooLong := by
  simp only [arguments, if_true]
  induction texts with
  | nil => simp at overlong
  | cons text texts inductionHypothesis =>
      rw [List.mapM_cons]
      by_cases first : IsOverlong text
      · rw [argument_of_isOverlong first]
        rfl
      · rcases exists_standsFor text with ⟨scalar, stands⟩
        have later : ∃ text ∈ texts, IsOverlong text := by simpa [first] using overlong
        rw [argument_of_standsFor first stands, inductionHypothesis later]
        rfl

theorem existsUnique_forall₂_standsFor (texts : List Text) :
    ∃! scalars, List.Forall₂ StandsFor texts scalars := by
  induction texts with
  | nil => exact ⟨[], .nil, fun _ none => List.forall₂_nil_left_iff.mp none⟩
  | cons text texts inductionHypothesis =>
      rcases exists_standsFor text with ⟨scalar, stands⟩
      rcases inductionHypothesis with ⟨scalars, stand, unique⟩
      refine ⟨scalar :: scalars, .cons stands stand, fun others also => ?_⟩
      rcases List.forall₂_cons_left_iff.mp also with ⟨other, rest, first, behind, rfl⟩
      rw [first.unique stands, unique rest behind]

/-- Each of the texts stands for exactly one scalar.  The texts are coerced to these scalars if and only if
none of them is an integer that is too long, and otherwise coercion breaks off. -/
theorem arguments_eq_ok_iff_standsFor (texts : List Text) :
    (∃! scalars, List.Forall₂ StandsFor texts scalars) ∧
      (∀ scalars, arguments true texts = .ok scalars ↔
        (∀ text ∈ texts, ¬ IsOverlong text) ∧ List.Forall₂ StandsFor texts scalars) ∧
      ((∃ text ∈ texts, IsOverlong text) → arguments true texts = .error .numeralTooLong) := by
  rcases existsUnique_forall₂_standsFor texts with ⟨meant, stand, unique⟩
  refine ⟨⟨meant, stand, unique⟩, fun scalars => ?_, arguments_of_isOverlong⟩
  -- If no text is too long, the scalars that are meant are those that come out.
  have coerced (convertible : ∀ text ∈ texts, ¬ IsOverlong text) : arguments true texts = .ok meant := by
    simp only [arguments, if_true, Binding.mapM_eq_ok_iff_forall₂]
    rw [List.forall₂_iff_zip] at stand ⊢
    exact ⟨stand.1, fun member =>
      argument_of_standsFor (convertible _ (List.of_mem_zip member).1) (stand.2 member)⟩
  constructor
  · intro succeeds
    by_cases overlong : ∃ text ∈ texts, IsOverlong text
    · cases succeeds.symm.trans (arguments_of_isOverlong overlong)
    · have convertible : ∀ text ∈ texts, ¬ IsOverlong text := by simpa using overlong
      cases succeeds.symm.trans (coerced convertible)
      exact ⟨convertible, stand⟩
  · rintro ⟨convertible, also⟩
    rw [unique scalars also]
    exact coerced convertible

theorem isOverlong_longNumeral : IsOverlong Workspace.longNumeral := by
  have digits : ∀ c ∈ Workspace.longNumeral, c.isDigit = true := fun c member => by
    rw [Workspace.mem_longNumeral member]
    rfl
  have trimmed : Text.trim Workspace.longNumeral = Workspace.longNumeral :=
    Text.trim_eq_self fun c member => Text.isBlank_of_isDigit (digits c member)
  refine ⟨false, Workspace.longNumeral, ⟨[], List.mem_cons_self, trimmed, ?_⟩, ?_⟩
  · exact (Numeral.isNumeral_iff _).mpr ⟨by simp [Workspace.longNumeral], digits⟩
  · simp [Workspace.longNumeral]

/-- Not all texts are coerced to what they stand for. -/
theorem not_arguments_eq_ok_standsFor :
    ¬ ∀ texts, ∃ scalars, arguments true texts = .ok scalars ∧ List.Forall₂ StandsFor texts scalars := by
  intro always
  rcases always [Workspace.longNumeral] with ⟨scalars, succeeds, _⟩
  cases succeeds.symm.trans (arguments_of_isOverlong ⟨_, List.mem_cons_self, isOverlong_longNumeral⟩)

/-- Zeros in front are allowed in an integer, and a text that is none of the others keeps its blanks. -/
example : arguments true [" -007 ".toList, "On ".toList, " ¹ ".toList] =
    .ok [.integer (-7), .boolean true, .text " ¹ ".toList] := rfl

end Coercion
end FieldText
