import FieldText.Proofs.Limits
import Mathlib.Data.Nat.Digits.Defs

/-!
What is written for an integer.  The options open with the letters of a style, and a count may follow them.
The sign comes first, then the mark of base sixteen if the style has it, and then digits.  The digits spell
the magnitude in the base of the style.  There are as many of them as the magnitude has, or as many as the
count asks for if those are more, and the zeros that make up the difference are digits like all others.

Grouping is described from the right, since that is where the groups of three are counted from: a text of at
most three digits is a group of its own, and behind a grouped text stand a comma and three digits more.
-/

namespace FieldText

/-! ## Spelling numbers -/

namespace Numeral

/-- The figures of the digits up to fifteen, with letters of one size. -/
def figures (capital : Bool) : Text :=
  if capital then "0123456789ABCDEF".toList else "0123456789abcdef".toList

/-- A text spells a number in a base: each character is the figure of a digit, and the digits make up the
number, where the last one counts least. -/
def Spells (base : Nat) (capital : Bool) (text : Text) (number : Nat) : Prop :=
  ∃ digits : List Nat, (∀ digit ∈ digits, digit < base) ∧
    List.Forall₂ (fun c digit => (figures capital)[digit]? = some c) text digits ∧
    Nat.ofDigits base digits.reverse = number

/-- The number of digits that a number has in a base.  Zero has one digit. -/
def digitCount (base number : Nat) : Nat := max 1 (Nat.digits base number).length

/-- The digits of a number, the first of which counts most. -/
def digitsOf (base number : Nat) : List Nat :=
  if number = 0 then [0] else (Nat.digits base number).reverse

theorem length_digitsOf (base number : Nat) : (digitsOf base number).length = digitCount base number := by
  unfold digitsOf digitCount
  split
  · next zero => simp [zero]
  · next notZero =>
      have some : (Nat.digits base number).length ≠ 0 := by
        simpa using Nat.digits_ne_nil_iff_ne_zero.mpr notZero
      rw [List.length_reverse]
      omega

theorem lt_of_mem_digitsOf {base number digit : Nat} (large : 1 < base)
    (member : digit ∈ digitsOf base number) : digit < base := by
  unfold digitsOf at member
  split at member
  · rw [List.mem_singleton.mp member]
    omega
  · exact Nat.digits_lt_base large (List.mem_reverse.mp member)

/-- The numeral of a number has the figures of its digits. -/
theorem toDigits_eq_map {base : Nat} (large : 1 < base) (number : Nat) :
    Nat.toDigits base number = (digitsOf base number).map Nat.digitChar := by
  induction number using Nat.strongRecOn with
  | ind number inductionHypothesis =>
      rw [Nat.toDigits_eq_if large]
      by_cases small : number < base
      · rw [if_pos small, digitsOf]
        split
        · next zero => rw [zero]; rfl
        · next notZero => rw [Nat.digits_of_lt base number notZero small]; rfl
      · have positive : 0 < number := by omega
        have shorter := Nat.div_lt_self positive large
        have rest : number / base ≠ 0 := (Nat.div_pos (Nat.le_of_not_lt small) (by omega)).ne'
        rw [if_neg small, inductionHypothesis _ shorter, digitsOf, digitsOf, if_neg rest, if_neg positive.ne',
          Nat.digits_def' large positive, List.reverse_cons, List.map_append, List.map_singleton]

/-- Zeros in front of the digits of a number do not change what they make up. -/
theorem ofDigits_zeros_append (base zeros number : Nat) :
    Nat.ofDigits base (List.replicate zeros 0 ++ digitsOf base number).reverse = number := by
  rw [List.reverse_append, List.reverse_replicate, Nat.ofDigits_append_replicate_zero, digitsOf]
  split
  · next zero => rw [zero]; simp
  · rw [List.reverse_reverse, Nat.ofDigits_digits]

end Numeral

namespace IntegerStyle

/-! ## Styles -/

/-- The base in which the digits count. -/
def base : IntegerStyle → Nat
  | decimal _ => 10
  | hexadecimal _ _ => 16

/-- Whether the letters among the digits are capital. -/
def isCapital : IntegerStyle → Bool
  | hexadecimal capital _ => capital
  | decimal _ => false

/-- Whether the digits of base sixteen are marked as such. -/
def isMarked : IntegerStyle → Bool
  | hexadecimal _ marked => marked
  | decimal _ => false

/-- Whether there are commas between groups of digits. -/
def isGrouped : IntegerStyle → Bool
  | decimal grouped => grouped
  | hexadecimal _ _ => false

/-- The letter of base sixteen. -/
def letter (capital : Bool) : Char := if capital then 'X' else 'x'

/-- A text opens with the letters of a style, and goes on with another text, where a count is looked for.  In
base sixteen a sign tells whether there is a mark, and there is one if the sign is missing; base ten can do
without any letter. -/
inductive Opens : IntegerStyle → Text → Text → Prop
  | unmarked (capital : Bool) (rest : Text) :
      Opens (.hexadecimal capital false) rest (letter capital :: '-' :: rest)
  | marked (capital : Bool) (rest : Text) :
      Opens (.hexadecimal capital true) rest (letter capital :: '+' :: rest)
  | unsigned (capital : Bool) {rest : Text} (noSign : ∀ c ∈ rest.head?, c ≠ '-' ∧ c ≠ '+') :
      Opens (.hexadecimal capital true) rest (letter capital :: rest)
  | grouped {c : Char} (isLetter : c = 'N' ∨ c = 'n') (rest : Text) : Opens (.decimal true) rest (c :: rest)
  | plain {c : Char} (isLetter : c = 'D' ∨ c = 'd') (rest : Text) : Opens (.decimal false) rest (c :: rest)
  | bare {rest : Text} (noLetter : ∀ c ∈ rest.head?, c ∉ ['x', 'X', 'N', 'n', 'D', 'd']) :
      Opens (.decimal false) rest rest

theorem opens_cutHexadecimal (capital : Bool) (rest : Text) :
    Opens (cutHexadecimal capital rest).1 (cutHexadecimal capital rest).2 (letter capital :: rest) := by
  unfold cutHexadecimal
  split
  · exact .unmarked capital _
  · exact .marked capital _
  · next notMinus notPlus =>
      refine .unsigned capital fun c head => ?_
      rcases List.head?_eq_some_iff.mp head with ⟨others, rfl⟩
      exact ⟨fun same => notMinus others (by rw [same]), fun same => notPlus others (by rw [same])⟩

theorem opens_cut (text : Text) : Opens (cut text).1 (cut text).2 text := by
  unfold cut
  split
  · exact opens_cutHexadecimal false _
  · exact opens_cutHexadecimal true _
  · exact .grouped (Or.inl rfl) _
  · exact .grouped (Or.inr rfl) _
  · exact .plain (Or.inl rfl) _
  · exact .plain (Or.inr rfl) _
  · next notSmall notCapital notN notn notD notd =>
      refine .bare fun c head => ?_
      rcases List.head?_eq_some_iff.mp head with ⟨others, rfl⟩
      simp only [List.mem_cons, List.not_mem_nil, or_false]
      rintro (rfl | rfl | rfl | rfl | rfl | rfl)
      · exact notSmall others rfl
      · exact notCapital others rfl
      · exact notN others rfl
      · exact notn others rfl
      · exact notD others rfl
      · exact notd others rfl

theorem cutHexadecimal_of_unsigned {rest : Text} (noSign : ∀ c ∈ rest.head?, c ≠ '-' ∧ c ≠ '+')
    (capital : Bool) : cutHexadecimal capital rest = (.hexadecimal capital true, rest) := by
  unfold cutHexadecimal
  split
  · exact absurd rfl (noSign '-' rfl).1
  · exact absurd rfl (noSign '+' rfl).2
  · rfl

theorem cut_of_bare {rest : Text} (noLetter : ∀ c ∈ rest.head?, c ∉ ['x', 'X', 'N', 'n', 'D', 'd']) :
    cut rest = (.decimal false, rest) := by
  unfold cut
  split
  · exact absurd (by decide) (noLetter 'x' rfl)
  · exact absurd (by decide) (noLetter 'X' rfl)
  · exact absurd (by decide) (noLetter 'N' rfl)
  · exact absurd (by decide) (noLetter 'n' rfl)
  · exact absurd (by decide) (noLetter 'D' rfl)
  · exact absurd (by decide) (noLetter 'd' rfl)
  · rfl

/-- Every text opens with the letters of exactly one style. -/
theorem opens_iff (style : IntegerStyle) (rest text : Text) :
    Opens style rest text ↔ cut text = (style, rest) := by
  constructor
  · intro opens
    cases opens with
    | unmarked capital rest => cases capital <;> rfl
    | marked capital rest => cases capital <;> rfl
    | unsigned capital noSign =>
        rw [← cutHexadecimal_of_unsigned noSign capital]
        cases capital <;> rfl
    | grouped isLetter rest => rcases isLetter with rfl | rfl <;> rfl
    | plain isLetter rest => rcases isLetter with rfl | rfl <;> rfl
    | bare noLetter => exact cut_of_bare noLetter
  · intro parts
    have opens := opens_cut text
    rw [parts] at opens
    exact opens

/-- The least number of digits that a text asks for, which is none if it is no numeral. -/
def least (rest : Text) : Nat :=
  if Numeral.isNumeral (Text.trim rest) then Numeral.value (Text.trim rest) else 0

theorem asked?_read_getD (rest : Text) (short : Count.read rest ≠ .tooLong) :
    (Count.read rest).asked?.getD 0 = least rest := by
  unfold Count.read least at *
  dsimp only at *
  split
  · next empty =>
      have noNumeral : Numeral.isNumeral (Text.trim rest) = false := by simp [Numeral.isNumeral, empty]
      simp [Count.asked?, noNumeral]
  · next notEmpty =>
      rw [if_neg notEmpty] at short
      split
      · next numeral =>
          rw [if_pos numeral] at short
          unfold Numeral.read? at *
          split
          · next count found =>
              split at found
              · cases found
                rfl
              · cases found
          · next missing =>
              rw [missing] at short
              exact absurd rfl short
      · rfl

/-! ## Digits -/

/-- The figure of a digit in a style. -/
def figure (style : IntegerStyle) (digit : Nat) : Char :=
  if style.isCapital then (Nat.digitChar digit).toUpper else Nat.digitChar digit

theorem base_bounds (style : IntegerStyle) : 1 < style.base ∧ style.base ≤ 16 := by
  cases style with
  | decimal grouped => exact ⟨by decide +revert, by decide +revert⟩
  | hexadecimal capital marked => exact ⟨by decide +revert, by decide +revert⟩

theorem getElem?_figures (style : IntegerStyle) {digit : Nat} (small : digit < style.base) :
    (Numeral.figures style.isCapital)[digit]? = some (style.figure digit) := by
  have sixteen : ∀ capital, ∀ digit < 16, (Numeral.figures capital)[digit]? =
      some (if capital then (Nat.digitChar digit).toUpper else Nat.digitChar digit) := by decide
  exact sixteen _ digit (Nat.lt_of_lt_of_le small style.base_bounds.2)

theorem digits_eq_map {style : IntegerStyle} {magnitude : Nat} {digits : Text}
    (written : style.digits magnitude = .ok digits) :
    digits = (Numeral.digitsOf style.base magnitude).map style.figure := by
  unfold IntegerStyle.digits at written
  split at written
  · split at written
    · next found =>
        cases written
        unfold Numeral.write? at found
        dsimp only at found
        split at found
        · cases found
          exact Numeral.toDigits_eq_map (by decide) magnitude
        · cases found
    · cases written
  · cases written
    exact Numeral.toDigits_eq_map (by decide) magnitude
  · cases written
    rw [Numeral.hexadecimal, Numeral.toDigits_eq_map (by decide) magnitude, List.map_map]
    rfl

theorem figure_zero (style : IntegerStyle) : style.figure 0 = '0' := by
  unfold figure
  split <;> rfl

theorem padLeft_map_figure (style : IntegerStyle) (length : Nat) (digits : List Nat) :
    Text.padLeft length '0' (digits.map style.figure) =
      (List.replicate (length - digits.length) 0 ++ digits).map style.figure := by
  rw [Text.padLeft, List.length_map, List.map_append, List.map_replicate, figure_zero]

/-- Padded digits spell what the digits spell. -/
theorem spells_padLeft (style : IntegerStyle) (length magnitude : Nat) :
    Numeral.Spells style.base style.isCapital
      (Text.padLeft length '0' ((Numeral.digitsOf style.base magnitude).map style.figure)) magnitude := by
  rw [padLeft_map_figure]
  have small : ∀ digit ∈ List.replicate (length - (Numeral.digitsOf style.base magnitude).length) 0 ++
      Numeral.digitsOf style.base magnitude, digit < style.base := by
    intro digit member
    rcases List.mem_append.mp member with zero | own
    · rw [List.eq_of_mem_replicate zero]
      exact Nat.zero_lt_of_lt style.base_bounds.1
    · exact Numeral.lt_of_mem_digitsOf style.base_bounds.1 own
  refine ⟨_, small, ?_, Numeral.ofDigits_zeros_append _ _ _⟩
  rw [List.forall₂_map_left_iff, List.forall₂_same]
  exact fun digit member => style.getElem?_figures (small digit member)

/-- There are as many digits as are asked for, unless there are more. -/
theorem length_padLeft (style : IntegerStyle) (length magnitude : Nat) :
    (Text.padLeft length '0' ((Numeral.digitsOf style.base magnitude).map style.figure)).length =
      max length (Numeral.digitCount style.base magnitude) := by
  rw [Text.length_padLeft, List.length_map, Numeral.length_digitsOf]

theorem ne_comma_of_spells {base : Nat} {capital : Bool} {text : Text} {number : Nat}
    (spells : Numeral.Spells base capital text number) : ∀ c ∈ text, c ≠ ',' := by
  have noFigure : ',' ∉ Numeral.figures capital := by cases capital <;> decide
  obtain ⟨digits, -, figures, -⟩ := spells
  induction figures with
  | nil => exact fun _ member => absurd member List.not_mem_nil
  | cons found _ inductionHypothesis =>
      refine List.forall_mem_cons.mpr ⟨?_, inductionHypothesis⟩
      exact ne_of_mem_of_not_mem (List.mem_of_getElem? found) noFigure

/-! ## Groups -/

/-- A text in groups, and what is left of it without the commas.  The groups have three characters each, but
the first may have less. -/
inductive IsGrouping : Text → Text → Prop
  | first {text : Text} (nonempty : text ≠ []) (short : text.length ≤ 3) : IsGrouping text text
  | behind {plain text group : Text} (grouping : IsGrouping plain text) (three : group.length = 3) :
      IsGrouping (plain ++ group) (text ++ ',' :: group)

theorem isGrouping_groupBackwards {digits : Text} (nonempty : digits ≠ []) :
    IsGrouping digits.reverse (groupBackwards digits).reverse := by
  induction digits using groupBackwards.induct with
  | case1 a b c d rest inductionHypothesis =>
      have three : ([c, b, a] : Text).length = 3 := rfl
      have grouping := (inductionHypothesis (by simp)).behind three
      simpa [groupBackwards] using grouping
  | case2 short notLong =>
      rw [groupBackwards]
      · refine .first (by simpa using nonempty) ?_
        rw [List.length_reverse]
        by_contra long
        rcases short with _ | ⟨a, _ | ⟨b, _ | ⟨c, _ | ⟨d, rest⟩⟩⟩⟩
        · exact long (by decide)
        · exact long (by simp)
        · exact long (by simp)
        · exact long (by simp)
        · exact notLong a b c d rest rfl
      · exact notLong

theorem isGrouping_group {digits : Text} (nonempty : digits ≠ []) : IsGrouping digits (group digits) := by
  have nonemptyBackwards : digits.reverse ≠ [] := by simpa using nonempty
  have grouping := isGrouping_groupBackwards nonemptyBackwards
  rwa [List.reverse_reverse] at grouping

/-- Without its commas a grouped text is what it was. -/
theorem IsGrouping.filter_eq {plain text : Text} (grouping : IsGrouping plain text)
    (noComma : ∀ c ∈ plain, c ≠ ',') : text.filter (· ≠ ',') = plain := by
  induction grouping with
  | first nonempty short => simpa using noComma
  | behind _ three inductionHypothesis =>
      rw [List.forall_mem_append] at noComma
      rw [List.filter_append, inductionHypothesis noComma.1]
      simpa using noComma.2

/-- The final arrangement adds nothing but commas, and these only where the style asks for groups. -/
theorem arrange_eq (style : IntegerStyle) {digits : Text} (nonempty : digits ≠ [])
    (noComma : ∀ c ∈ digits, c ≠ ',') :
    (style.arrange digits).filter (· ≠ ',') = digits ∧
      if style.isGrouped then IsGrouping digits (style.arrange digits) else digits = style.arrange digits := by
  have unchanged : digits.filter (· ≠ ',') = digits := by simpa using noComma
  cases style with
  | hexadecimal capital marked => exact ⟨unchanged, rfl⟩
  | decimal grouped =>
      cases grouped with
      | false => exact ⟨unchanged, rfl⟩
      | true => exact ⟨(isGrouping_group nonempty).filter_eq noComma, isGrouping_group nonempty⟩

theorem mark_eq (style : IntegerStyle) : style.mark = if style.isMarked then "0x".toList else [] := by
  cases style with
  | decimal grouped => rfl
  | hexadecimal capital marked => cases marked <;> rfl

end IntegerStyle

/-! ## What is written -/

@[simp]
theorem Rendering.ofExcept_ok {α : Type} (value : α) (next : α → Rendering) :
    ofExcept (.ok value) next = next value := rfl

/-- When a count is read, then what comes next goes on with it. -/
theorem Count.chunks_withCount {family : CountedOptions} {text : Text} {next : Option Nat → Rendering}
    (succeeds : (withCount family text next).fault = none) :
    read text ≠ .tooLong ∧ (next (read text).asked?).fault = none ∧
      (withCount family text next).chunks = (next (read text).asked?).chunks := by
  unfold withCount at *
  cases said : read text with
  | absent => simpa [said, asked?] using succeeds
  | given count => simpa [said, asked?] using succeeds
  | tooLong => simp [said, Rendering.fail] at succeeds
  | unrecognised =>
      simp only [said, Rendering.andThen_fault, Rendering.note] at succeeds
      simpa [Rendering.andThen, Rendering.note, asked?] using succeeds

theorem Repetition.of_padLeft_succeeds {length : Nat} {fill : Char} {text : Text} {next : Text → Rendering}
    (succeeds : (Rendering.ofExcept (padLeft length fill text) next).fault = none) :
    Rendering.ofExcept (padLeft length fill text) next = next (Text.padLeft length fill text) := by
  unfold padLeft at *
  split at succeeds
  · cases succeeds
  · next countable =>
      rw [if_neg countable]
      rfl

namespace Scalar

theorem chunks_renderInteger {value : Int} {options : Text}
    (succeeds : (renderInteger value options).fault = none) {style : IntegerStyle} {rest : Text}
    (parts : IntegerStyle.cut (Text.trim options) = (style, rest)) :
    (renderInteger value options).chunks =
      [(if value < 0 then ['-'] else []) ++ style.mark ++
        style.arrange (Text.padLeft (IntegerStyle.least rest) '0'
          ((Numeral.digitsOf style.base value.natAbs).map style.figure))] := by
  unfold renderInteger IntegerStyle.write at *
  simp only [parts, decide_eq_true_eq] at succeeds ⊢
  cases written : style.digits value.natAbs with
  | error fault => rw [written] at succeeds; cases succeeds
  | ok digits =>
      rw [written] at succeeds
      rw [Rendering.ofExcept_ok] at succeeds ⊢
      obtain ⟨short, completes, chunks⟩ := Count.chunks_withCount succeeds
      rw [chunks, Repetition.of_padLeft_succeeds completes, IntegerStyle.asked?_read_getD rest short,
        IntegerStyle.digits_eq_map written]
      rfl

/-- Whatever is written for an integer denotes it.  The trimmed options open with exactly one style, and the
rest of them says how many digits there have to be.  There is a single chunk: a minus sign if the number is
negative, the mark of base sixteen if the style has it, and digits.  Apart from commas the digits spell the
magnitude in the base of the style, with as many digits as it has or as the options ask for, whichever is
more.  The commas put all of them into groups of three, counted from the right, if the style does so, and
otherwise there are none. -/
theorem renderInteger_denotes (value : Int) (options : Text)
    (succeeds : (renderInteger value options).fault = none) :
    ∃ style rest, (∀ other behind, IntegerStyle.Opens other behind (Text.trim options) ↔
        other = style ∧ behind = rest) ∧
      ∃ digits : Text,
        let plain := digits.filter (· ≠ ',')
        (renderInteger value options).chunks =
          [(if value < 0 then ['-'] else []) ++ (if style.isMarked then "0x".toList else []) ++ digits] ∧
        Numeral.Spells style.base style.isCapital plain value.natAbs ∧
        plain.length = max (IntegerStyle.least rest) (Numeral.digitCount style.base value.natAbs) ∧
        if style.isGrouped then IntegerStyle.IsGrouping plain digits else plain = digits := by
  rcases parts : IntegerStyle.cut (Text.trim options) with ⟨style, rest⟩
  have chunks := chunks_renderInteger succeeds parts
  have spells := style.spells_padLeft (IntegerStyle.least rest) value.natAbs
  have length := style.length_padLeft (IntegerStyle.least rest) value.natAbs
  generalize Text.padLeft (IntegerStyle.least rest) '0'
    ((Numeral.digitsOf style.base value.natAbs).map style.figure) = padded at chunks spells length
  have nonempty : padded ≠ [] := by
    refine List.ne_nil_of_length_pos ?_
    rw [length]
    exact Nat.lt_of_lt_of_le Nat.zero_lt_one ((Nat.le_max_left _ _).trans (Nat.le_max_right _ _))
  obtain ⟨plain, arranged⟩ := style.arrange_eq nonempty (IntegerStyle.ne_comma_of_spells spells)
  refine ⟨style, rest, fun other behind => ?_, style.arrange padded, ?_⟩
  · rw [IntegerStyle.opens_iff, parts, Prod.mk.injEq, eq_comm, @eq_comm _ rest]
  · simp only [plain]
    exact ⟨style.mark_eq ▸ chunks, spells, length, arranged⟩

/-- A negative number with zeros in its groups. -/
theorem renderInteger_denotes_paddedGroups :
    (renderInteger (-1234567) " N8".toList).fault = none ∧
      ∃ digits : Text, (renderInteger (-1234567) " N8".toList).chunks = ['-' :: digits] ∧
        Numeral.Spells 10 false (digits.filter (· ≠ ',')) 1234567 ∧
        (digits.filter (· ≠ ',')).length = 8 ∧
        IntegerStyle.IsGrouping (digits.filter (· ≠ ',')) digits := by
  have succeeds : (renderInteger (-1234567) " N8".toList).fault = none := by decide
  obtain ⟨style, rest, opens, digits, chunks, spells, length, grouping⟩ :=
    renderInteger_denotes (-1234567) " N8".toList succeeds
  have capitalN : 'N' = 'N' ∨ 'N' = 'n' := Or.inl rfl
  obtain ⟨rfl, rfl⟩ := (opens _ _).mp (.grouped capitalN ['8'])
  have seven : Numeral.digitCount 10 1234567 = 7 := by simp [Numeral.digitCount]
  refine ⟨succeeds, digits, chunks, spells, length.trans ?_, grouping⟩
  exact congrArg (max 8) seven

/-- The zeros in front are put into groups like the other digits. -/
example : (renderInteger (-1234567) " N8".toList).text = "-01,234,567".toList := by decide

end Scalar
end FieldText
