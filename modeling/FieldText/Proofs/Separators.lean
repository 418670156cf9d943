import FieldText.Proofs.RoundTrip
import FieldText.Proofs.Strictness
import FieldText.Proofs.WrittenLayouts
import FieldText.RangeOptions

/-!
Range options on their way from a format string to the sequence that they are for.  A separator and the options
for the elements may hold nearly every character, also those that mean something around them, and three cuts
have to leave them whole: the one at the closing brace, the one at the colon in front of the options, and the
one at the closing bracket of a value.

Each cut is at the first character of its kind.  There is no brace in the options, the first colon behind a
layout cannot be taken for a pad because options begin with an indicator and not with a mark, and a value holds
every bracket but the one that closes it.
-/

namespace FieldText

namespace Text

/-- Trimming takes blank characters away, and no others. -/
theorem mem_trim_of_mem {text : Text} {c : Char} (member : c ∈ text) (notBlank : isBlank c = false) :
    c ∈ trim text := by
  have keeps : ∀ other : Text, c ∈ other → c ∈ trimLeft other := by
    intro other member
    rw [← List.takeWhile_append_dropWhile (p := isBlank) (l := other)] at member
    refine (List.mem_append.mp member).resolve_left fun before => ?_
    rw [List.mem_takeWhile_imp before] at notBlank
    cases notBlank
  rw [trim, trimRight, List.mem_reverse]
  exact keeps _ (List.mem_reverse.mpr (keeps _ member))

end Text

/-! ## Range options in writing -/

namespace RangeOptions

/-- The pairs of brackets that a value can stand in. -/
def brackets : List (Char × Char) := [('[', ']'), ('<', '>'), ('(', ')')]

theorem closer?_of_mem_brackets {opener closer : Char} (pair : (opener, closer) ∈ brackets) :
    closer? opener = some closer := by
  have each : ∀ pair ∈ brackets, closer? pair.1 = some pair.2 := by decide
  exact each _ pair

/-- How a part is written.  It is left out and has the value that it then falls back to, or its indicator
stands in front of a value in brackets, which holds anything but the closing bracket. -/
inductive WritesPart (indicator : Char) (fallback : Text) : Text → Text → Prop
  | leftOut : WritesPart indicator fallback fallback []
  | given {opener closer : Char} {value : Text} (pair : (opener, closer) ∈ brackets)
      (closerFree : closer ∉ value) :
      WritesPart indicator fallback value (indicator :: opener :: (value ++ [closer]))

/-- How range options are written: first the separator, then the options for the elements. -/
inductive Writes : RangeOptions → Text → Prop
  | parts {separator element front back : Text}
      (writesSeparator : WritesPart '$' defaultSeparator separator front)
      (writesElement : WritesPart '@' [] element back) : Writes ⟨separator, element⟩ (front ++ back)

variable {indicator : Char} {fallback value written : Text}

/-- A part that is written is read, whatever follows it. -/
theorem readPart_of_writesPart (writes : WritesPart indicator fallback value written) {rest : Text}
    (apart : rest.head? ≠ some indicator) :
    readPart indicator fallback (written ++ rest) = ⟨value, rest, []⟩ := by
  cases writes with
  | leftOut =>
      cases rest with
      | nil => rfl
      | cons c rest => exact if_neg fun same => apart (congrArg some same)
  | @given opener closer _ pair closerFree =>
      have inside : ∀ c ∈ value, decide (c ≠ closer) = true := by
        intro c member
        simpa using fun same : c = closer => closerFree (same ▸ member)
      have found := Text.cut_append inside closer (by simp) rest
      simp only [List.cons_append, List.append_assoc, List.nil_append, readPart, if_true, readValue,
        closer?_of_mem_brackets pair, found.1, found.2]

theorem WritesPart.head? (writes : WritesPart indicator fallback value written) :
    written.head? = none ∨ written.head? = some indicator := by
  cases writes with
  | leftOut => exact Or.inl rfl
  | given pair closerFree => exact Or.inr rfl

variable {parts : RangeOptions} {options : Text}

/-- Options that are written are read as what they say, and there is nothing to note. -/
theorem read_of_writes (writes : Writes parts options) : read options = (parts, []) := by
  cases writes with
  | @parts separator element front back writesSeparator writesElement =>
      have apart : back.head? ≠ some '$' := by
        rcases writesElement.head? with empty | begins
        · rw [empty]
          exact nofun
        · rw [begins]
          decide
      have readSeparator := readPart_of_writesPart writesSeparator apart
      have readElement : readPart '@' [] (back ++ []) = ⟨element, [], []⟩ :=
        readPart_of_writesPart writesElement nofun
      rw [List.append_nil] at readElement
      simp [read, readSeparator, readElement, Text.isAllBlank]

/-- Options begin with an indicator, if they are not empty. -/
theorem beginsWithMark_of_writes (writes : Writes parts options) : Body.beginsWithMark options = false := by
  cases writes with
  | parts writesSeparator writesElement =>
      cases writesSeparator with
      | leftOut => cases writesElement <;> rfl
      | given pair closerFree => rfl

theorem WritesPart.braceFree (writes : WritesPart indicator fallback value written)
    (indicatorFree : isBrace indicator = false) (free : BraceFree value) : BraceFree written := by
  cases writes with
  | leftOut => exact nofun
  | given pair closerFree =>
      have bracketsFree : ∀ pair ∈ brackets, isBrace pair.1 = false ∧ isBrace pair.2 = false := by decide
      have apart := bracketsFree _ pair
      simp only [braceFree_cons_iff, braceFree_append_iff]
      exact ⟨indicatorFree, apart.1, free, apart.2, nofun⟩

theorem Writes.braceFree (writes : Writes parts options) (separatorFree : BraceFree parts.separator)
    (elementFree : BraceFree parts.element) : BraceFree options := by
  cases writes with
  | parts writesSeparator writesElement =>
      exact (braceFree_append_iff _ _).mpr
        ⟨writesSeparator.braceFree rfl separatorFree, writesElement.braceFree rfl elementFree⟩

end RangeOptions

/-! ## Bodies with options -/

namespace Body

theorem isSeparator_of_isBlank {c : Char} (blank : Text.isBlank c = true) : isSeparator c = false := by
  rw [Bool.eq_false_iff, Ne, isSeparator_eq_true_iff]
  rintro (rfl | rfl) <;> cases blank

theorem isBrace_of_isBlank {c : Char} (blank : Text.isBlank c = true) : isBrace c = false := by
  rw [Bool.eq_false_iff, Ne, isBrace_eq_true_iff]
  rintro (rfl | rfl) <;> cases blank

theorem colon_not_mem_of_separatorFree {text : Text} (separatorFree : ∀ c ∈ text, isSeparator c = false) :
    ':' ∉ text := by
  intro member
  cases separatorFree _ member

/-- A layout that can be read has no colon but one that is its pad. -/
theorem isLayoutPart_of_read? {text : Text} {layout : Layout} (found : Layout.read? text = some layout) :
    IsLayoutPart text := by
  rcases ((Layout.read?_eq_some_iff_form text).1 layout).mp found with ⟨form, valid, rfl, _⟩
  have ofBlanks : ∀ {blanks : Text}, Text.isAllBlank blanks = true → ∀ c ∈ blanks, isSeparator c = false :=
    fun blank c member => isSeparator_of_isBlank ((Text.isAllBlank_iff _).mp blank c member)
  have ofDigits : ∀ {digits : Text}, Layout.Form.IsWidth digits → ∀ c ∈ digits, isSeparator c = false :=
    fun width c member => isSeparator_of_isDigit (width.digits c member)
  cases form with
  | blank blanks => exact isLayoutPart_of_colonFree (colon_not_mem_of_separatorFree (ofBlanks valid))
  | marked pad alignment digits blanks =>
      have colonFree : ':' ∉ alignment.mark :: (digits ++ blanks) := by
        apply colon_not_mem_of_separatorFree
        rw [List.forall_mem_cons, List.forall_mem_append]
        exact ⟨by cases alignment <;> rfl, ofDigits valid.1, ofBlanks valid.2⟩
      cases pad with
      | none => exact isLayoutPart_of_colonFree colonFree
      | some pad => exact isLayoutPart_of_mark pad (by rw [Alignment.ofMark?_mark]; rfl) colonFree
  | bare front digits blanks =>
      apply isLayoutPart_of_colonFree
      apply colon_not_mem_of_separatorFree
      simp only [Layout.Form.text, List.forall_mem_append]
      exact ⟨ofBlanks valid.1, ofDigits valid.2.1, ofBlanks valid.2.2⟩

/-- An index has digits and blanks only. -/
theorem isDigit_or_isBlank_of_numeral {index : Text} (numeral : Numeral.isNumeral (Text.trim index) = true)
    {c : Char} (member : c ∈ index) : c.isDigit = true ∨ Text.isBlank c = true := by
  cases blank : Text.isBlank c with
  | true => exact Or.inr rfl
  | false =>
      have digits := (Bool.and_eq_true_iff.mp numeral).2
      exact Or.inl (List.all_eq_true.mp digits c (Text.mem_trim_of_mem member blank))

/-- A body with a numeral for its index, and with options behind the index or behind a layout. -/
inductive Carries : Body → Text → Prop
  | index {index options : Text} (numeral : Numeral.isNumeral (Text.trim index) = true) :
      Carries ⟨index, none, options⟩ (index ++ ':' :: options)
  | layout {index layout options : Text} (numeral : Numeral.isNumeral (Text.trim index) = true)
      (layoutPart : IsLayoutPart layout) :
      Carries ⟨index, some layout, options⟩ (index ++ ',' :: (layout ++ ':' :: options))

namespace Carries

variable {parts : Body} {body : Text}

theorem numeral (carries : Carries parts body) : Numeral.isNumeral (Text.trim parts.index) = true := by
  cases carries with
  | index numeral => exact numeral
  | layout numeral layoutPart => exact numeral

/-- Options that do not begin with a mark are behind the colon that ends the layout, even an empty one. -/
theorem assembles (carries : Carries parts body) (noMark : beginsWithMark parts.options = false) :
    Assembles parts body := by
  have separatorFree : ∀ c ∈ parts.index, isSeparator c = false := by
    intro c member
    rcases isDigit_or_isBlank_of_numeral carries.numeral member with digit | blank
    · exact isSeparator_of_isDigit digit
    · exact isSeparator_of_isBlank blank
  cases carries with
  | index numeral => exact .options separatorFree _
  | layout numeral layoutPart => exact .segment separatorFree (.layoutOptions layoutPart fun _ => noMark)

theorem braceFree (carries : Carries parts body)
    (layoutFree : ∀ layout, parts.layout = some layout → BraceFree layout)
    (optionsFree : BraceFree parts.options) : BraceFree body := by
  have indexFree : BraceFree parts.index := by
    intro c member
    rcases isDigit_or_isBlank_of_numeral carries.numeral member with digit | blank
    · exact isBrace_of_isDigit digit
    · exact isBrace_of_isBlank blank
  cases carries with
  | index numeral =>
      simp only [braceFree_append_iff, braceFree_cons_iff]
      exact ⟨indexFree, rfl, optionsFree⟩
  | layout numeral layoutPart =>
      simp only [braceFree_append_iff, braceFree_cons_iff]
      exact ⟨indexFree, rfl, layoutFree _ rfl, rfl, optionsFree⟩

end Carries

/-- The field that the parts of a body ask for, which is left unpadded when the layout cannot be read. -/
def asked (parts : Body) : Field :=
  ⟨indexValue (Text.trim parts.index), (layoutValue parts.layout).getD Layout.unpadded, parts.options⟩

/-- In either mode, nothing else is read from a body with a numeral for its index. -/
theorem eq_field_of_result_read {mode : Mode} {place : Malformation.Kind → Malformation} {source body : Text}
    {item : Item} (numeral : Numeral.isNumeral (Text.trim (cut body).index) = true)
    (reads : (read mode place source body).result = .ok item) : item = .field source (cut body).asked := by
  have recovers : (read .recovering place source body).result = .ok item := by
    cases mode with
    | recovering => exact reads
    | strict =>
        rw [read_strict, Reading.result_stopped_eq_ok_iff] at reads
        exact reads.2
  rw [result_read_recovering, if_pos numeral] at recovers
  exact (Except.ok.inj recovers).symm

end Body

/-! ## The items of a format string -/

theorem Item.mem_attach_self {item : Item} (notLiteral : item.isLiteral = false) (items : List Item) :
    item ∈ item.attach items := by
  cases item with
  | literal text => cases notLiteral
  | _ => exact List.mem_cons_self

/-- Merging may make literals longer, but leaves all other items as they are. -/
theorem Item.mem_attach_of_mem {item : Item} (notLiteral : item.isLiteral = false) {items : List Item}
    (member : item ∈ items) (first : Item) : item ∈ first.attach items := by
  unfold attach
  split
  · exact member
  · next next rest =>
      refine List.mem_cons_of_mem _ ((List.mem_cons.mp member).resolve_left ?_)
      rintro rfl
      cases notLiteral
  · exact List.mem_cons_of_mem _ member

namespace Format

/-- Every piece is read to an item, and this is among the items unless it is a literal. -/
theorem exists_item_of_result_readAll {mode : Mode} {format : Text} {offset : Nat} {pieces : List Piece}
    {items : List Item} (reads : (readAll mode format offset pieces).result = .ok items) {piece : Piece}
    (member : piece ∈ pieces) :
    ∃ place item, (piece.read mode format place).result = .ok item ∧
      (item.isLiteral = false → item ∈ items) := by
  induction pieces generalizing offset items with
  | nil => cases member
  | cons first pieces inductionHypothesis =>
      rw [readAll, Reading.result_andThen_eq_ok_iff] at reads
      rcases reads with ⟨item, readsFirst, reads⟩
      rcases (Reading.result_map_eq_ok_iff _ _ _).mp reads with ⟨rest, readsRest, rfl⟩
      rcases List.mem_cons.mp member with rfl | later
      · exact ⟨offset, item, readsFirst, fun notLiteral => Item.mem_attach_self notLiteral rest⟩
      · rcases inductionHypothesis readsRest later with ⟨place, found, readsFound, isItem⟩
        exact ⟨place, found, readsFound,
          fun notLiteral => Item.mem_attach_of_mem notLiteral (isItem notLiteral) item⟩

/-- A field of a format string asks for what its body says, wherever it stands. -/
theorem field_mem_of_result_parse {mode : Mode} {format : Text} {items : List Item}
    (reads : (parse mode format).result = .ok items) {body : Text}
    (member : Piece.field body ∈ Piece.splitAll format)
    (numeral : Numeral.isNumeral (Text.trim (Body.cut body).index) = true) :
    Item.field (Piece.field body).source (Body.cut body).asked ∈ items := by
  rw [parse_eq_readAll] at reads
  rcases exists_item_of_result_readAll reads member with ⟨place, item, readsItem, isItem⟩
  obtain rfl := Body.eq_field_of_result_read numeral readsItem
  exact isItem rfl

end Format
end FieldText
