import FieldText.Proofs.Layouts
import FieldText.Proofs.Pieces

/-!
Field bodies.  A body is an index, then possibly a comma and a layout, then possibly a colon and
options.  This grammar is written down without reference to the way a body is cut, and cutting is
shown to be its inverse: every body is assembled from exactly one triple of parts.

The colon is what makes this delicate, because a pad may be a colon too.  A colon in front of an
alignment mark at the very beginning of the layout is a pad.  Every other colon ends the layout.
-/

namespace FieldText
namespace Body

/-! ## The grammar of bodies -/

/-- Whether a text begins with an alignment mark. -/
def beginsWithMark : Text → Bool
  | c :: _ => (Alignment.ofMark? c).isSome
  | [] => false

/-- A layout part has no colon, except for one that is its pad. -/
def IsLayoutPart : Text → Prop
  | ':' :: rest => beginsWithMark rest = true ∧ ':' ∉ rest
  | part => ':' ∉ part

/-- A layout segment is a layout part and then possibly a colon and options.  When the layout part is
empty, the options must not begin with a mark, for the colon would be read as a pad. -/
inductive Segments : Text × Text → Text → Prop
  | layout {layout : Text} (layoutPart : IsLayoutPart layout) : Segments (layout, []) layout
  | layoutOptions {layout options : Text} (layoutPart : IsLayoutPart layout)
      (colonEnds : layout = [] → beginsWithMark options = false) :
      Segments (layout, options) (layout ++ ':' :: options)

/-- How a body is assembled from its parts. -/
inductive Assembles : Body → Text → Prop
  | index {index : Text} (separatorFree : ∀ c ∈ index, isSeparator c = false) :
      Assembles ⟨index, none, []⟩ index
  | options {index : Text} (separatorFree : ∀ c ∈ index, isSeparator c = false) (options : Text) :
      Assembles ⟨index, none, options⟩ (index ++ ':' :: options)
  | segment {index layout options segment : Text} (separatorFree : ∀ c ∈ index, isSeparator c = false)
      (segments : Segments (layout, options) segment) :
      Assembles ⟨index, some layout, options⟩ (index ++ ',' :: segment)

/-! ## Cutting is the inverse of assembling -/

theorem ne_colon_of_mem {text : Text} (colonFree : ':' ∉ text) :
    ∀ c ∈ text, decide (c ≠ ':') = true := by
  intro c member
  simpa using fun same : c = ':' => colonFree (same ▸ member)

theorem colon_not_mem_takeWhile (text : Text) : ':' ∉ text.takeWhile (· ≠ ':') := by
  intro member
  simpa using List.mem_takeWhile_imp member

/-- Two characters in front decide how a layout segment is cut: a mark in second place protects the
character before it. -/
theorem cutLayout_of_mark {second : Char} (mark : (Alignment.ofMark? second).isSome = true)
    (first : Char) (rest : Text) :
    cutLayout (first :: second :: rest) =
      (first :: (second :: rest).takeWhile (· ≠ ':'),
        afterColon ((second :: rest).dropWhile (· ≠ ':'))) := by
  rw [cutLayout, if_pos mark]

theorem cutLayout_of_not_mark {segment : Text}
    (noMark : ∀ first rest, segment = first :: rest → beginsWithMark rest = false) :
    cutLayout segment =
      (segment.takeWhile (· ≠ ':'), afterColon (segment.dropWhile (· ≠ ':'))) := by
  unfold cutLayout
  split
  · next first second rest =>
      have unmarked : ¬ (Alignment.ofMark? second).isSome = true := by
        simpa [beginsWithMark] using noMark first (second :: rest) rfl
      rw [if_neg unmarked]
  · rfl

/-- The two ways in which a layout part may look: its first character is protected by a mark, or it
has no colon at all and no mark in second place. -/
theorem IsLayoutPart.cases {layout : Text} (layoutPart : IsLayoutPart layout) :
    (∃ first second rest, layout = first :: second :: rest ∧
        (Alignment.ofMark? second).isSome = true ∧ ':' ∉ second :: rest) ∨
      (':' ∉ layout ∧ ∀ first rest, layout = first :: rest → beginsWithMark rest = false) := by
  unfold IsLayoutPart at layoutPart
  split at layoutPart
  · next rest =>
      cases rest with
      | nil => cases layoutPart.1
      | cons second rest => exact Or.inl ⟨':', second, rest, rfl, layoutPart⟩
  · cases layout with
    | nil => exact Or.inr ⟨List.not_mem_nil, fun first rest same => by cases same⟩
    | cons first rest =>
        cases mark : beginsWithMark rest with
        | false =>
            refine Or.inr ⟨layoutPart, ?_⟩
            intro head tail same
            cases same
            exact mark
        | true =>
            cases rest with
            | nil => cases mark
            | cons second rest =>
                exact Or.inl ⟨first, second, rest, rfl, mark,
                  fun member => layoutPart (List.mem_cons_of_mem first member)⟩

theorem cutLayout_layoutPart {layout : Text} (layoutPart : IsLayoutPart layout) :
    cutLayout layout = (layout, []) := by
  rcases layoutPart.cases with ⟨first, second, rest, rfl, mark, colonFree⟩ | ⟨colonFree, noMark⟩
  · have found := Text.cut_of_all (ne_colon_of_mem colonFree)
    rw [cutLayout_of_mark mark, found.1, found.2]
    rfl
  · have found := Text.cut_of_all (ne_colon_of_mem colonFree)
    rw [cutLayout_of_not_mark noMark, found.1, found.2]
    rfl

theorem cutLayout_layoutPart_append {layout : Text} (layoutPart : IsLayoutPart layout) {options : Text}
    (colonEnds : layout = [] → beginsWithMark options = false) :
    cutLayout (layout ++ ':' :: options) = (layout, options) := by
  rcases layoutPart.cases with ⟨first, second, rest, rfl, mark, colonFree⟩ | ⟨colonFree, noMark⟩
  · have found := Text.cut_append (ne_colon_of_mem colonFree) ':' rfl options
    rw [List.cons_append, List.cons_append, cutLayout_of_mark mark, ← List.cons_append, found.1, found.2]
    rfl
  · have found := Text.cut_append (ne_colon_of_mem colonFree) ':' rfl options
    rw [cutLayout_of_not_mark, found.1, found.2]
    · rfl
    · intro first rest same
      cases layout with
      | nil =>
          cases same
          exact colonEnds rfl
      | cons head tail =>
          cases same
          cases tail with
          | nil => rfl
          | cons second tail => exact noMark first (second :: tail) rfl

theorem isLayoutPart_of_colonFree {layout : Text} (colonFree : ':' ∉ layout) :
    IsLayoutPart layout := by
  unfold IsLayoutPart
  split
  · exact absurd List.mem_cons_self colonFree
  · exact colonFree

theorem isLayoutPart_of_mark (first : Char) {second : Char} {rest : Text}
    (mark : (Alignment.ofMark? second).isSome = true) (colonFree : ':' ∉ second :: rest) :
    IsLayoutPart (first :: second :: rest) := by
  unfold IsLayoutPart
  split
  · next same =>
      cases same
      exact ⟨mark, colonFree⟩
  · next notColon =>
      intro member
      rcases List.mem_cons.mp member with same | later
      · exact notColon (second :: rest) (by rw [same])
      · exact colonFree later

/-- Every layout segment is put together from what it is cut into. -/
theorem segments_cutLayout (segment : Text) : Segments (cutLayout segment) segment := by
  by_cases protectedPad : ∃ first second rest, segment = first :: second :: rest ∧
      (Alignment.ofMark? second).isSome = true
  · rcases protectedPad with ⟨first, second, rest, rfl, mark⟩
    have notColon : decide (second ≠ ':') = true := by
      simpa using fun same : second = ':' => by rw [same] at mark; cases mark
    have layoutPart : IsLayoutPart (first :: (second :: rest).takeWhile (· ≠ ':')) := by
      have colonFree := colon_not_mem_takeWhile (second :: rest)
      rw [List.takeWhile_cons, if_pos notColon] at colonFree ⊢
      exact isLayoutPart_of_mark first mark colonFree
    rw [cutLayout_of_mark mark]
    rcases Text.cut_cases (· ≠ ':') (second :: rest) with
      ⟨whole, nothing⟩ | ⟨c, options, behind, colon, whole⟩
    · rw [nothing, whole]
      rw [whole] at layoutPart
      exact .layout layoutPart
    · obtain rfl : c = ':' := by simpa using colon
      have joined : Segments (_, options) _ := .layoutOptions layoutPart nofun
      rw [List.cons_append, whole] at joined
      rw [behind]
      exact joined
  · have noMark : ∀ first rest, segment = first :: rest → beginsWithMark rest = false := by
      intro first rest same
      cases rest with
      | nil => rfl
      | cons second rest =>
          cases mark : beginsWithMark (second :: rest) with
          | false => rfl
          | true => exact absurd ⟨first, second, rest, same, mark⟩ protectedPad
    have layoutPart := isLayoutPart_of_colonFree (colon_not_mem_takeWhile segment)
    rw [cutLayout_of_not_mark noMark]
    rcases Text.cut_cases (· ≠ ':') segment with
      ⟨whole, nothing⟩ | ⟨c, options, behind, colon, whole⟩
    · rw [nothing, whole]
      rw [whole] at layoutPart
      exact .layout layoutPart
    · obtain rfl : c = ':' := by simpa using colon
      have colonEnds : segment.takeWhile (· ≠ ':') = [] → beginsWithMark options = false := by
        intro empty
        rw [empty] at whole
        exact noMark ':' options whole.symm
      have joined := Segments.layoutOptions layoutPart colonEnds
      rw [whole] at joined
      rw [behind]
      exact joined

theorem segments_iff (parts : Text × Text) (segment : Text) :
    Segments parts segment ↔ cutLayout segment = parts := by
  constructor
  · intro segments
    cases segments with
    | layout layoutPart => exact cutLayout_layoutPart layoutPart
    | layoutOptions layoutPart colonEnds => exact cutLayout_layoutPart_append layoutPart colonEnds
  · intro same
    exact same ▸ segments_cutLayout segment

theorem isSeparator_eq_true_iff (c : Char) : isSeparator c = true ↔ c = ',' ∨ c = ':' := by
  simp [isSeparator]

theorem not_separator_of_mem {index : Text} (separatorFree : ∀ c ∈ index, isSeparator c = false) :
    ∀ c ∈ index, (!isSeparator c) = true := by
  intro c member
  rw [separatorFree c member]
  rfl

/-- Cutting finds the parts that a body was assembled from. -/
theorem cut_of_assembles {parts : Body} {body : Text} (assembled : Assembles parts body) :
    cut body = parts := by
  unfold cut
  cases assembled with
  | index separatorFree =>
      have found := Text.cut_of_all (not_separator_of_mem separatorFree)
      simp only [found.1, found.2]
      rfl
  | options separatorFree options =>
      have found := Text.cut_append (not_separator_of_mem separatorFree) ':' rfl options
      simp only [found.1, found.2]
      rfl
  | @segment index layout options segment separatorFree segments =>
      have found := Text.cut_append (not_separator_of_mem separatorFree) ',' rfl segment
      simp only [found.1, found.2, (segments_iff _ _).mp segments]

/-- Every body is assembled from what it is cut into. -/
theorem assembles_cut (body : Text) : Assembles (cut body) body := by
  have separatorFree : ∀ c ∈ body.takeWhile fun c => !isSeparator c, isSeparator c = false := by
    intro c member
    simpa using List.mem_takeWhile_imp member
  unfold cut
  rcases Text.cut_cases (fun c => !isSeparator c) body with
    ⟨whole, nothing⟩ | ⟨c, rest, behind, separator, whole⟩
  · rw [nothing]
    rw [whole] at separatorFree ⊢
    exact .index separatorFree
  · rw [behind]
    rcases (isSeparator_eq_true_iff c).mp (by simpa using separator) with rfl | rfl
    · have assembled := Assembles.segment separatorFree (segments_cutLayout rest)
      rw [whole] at assembled
      exact assembled
    · have assembled := Assembles.options separatorFree rest
      rw [whole] at assembled
      exact assembled

/-! ## What a body means -/

/-- The number that the digits of an index denote.  A numeral too long to convert stands for a number
that no list of arguments reaches. -/
def indexValue (digits : Text) : Nat :=
  if digits.length ≤ Numeral.digitLimit then Numeral.value digits else clampedIndex

/-- The layout that the layout part asks for, if it can be read. -/
def layoutValue : Option Text → Option Layout
  | none => some Layout.unpadded
  | some part => Layout.read? part

/-- The field that the parts of a body ask for: the index is a numeral between blanks, and the layout
can be read. -/
structure Means (parts : Body) (field : Field) : Prop where
  numeral : Numeral.isNumeral (Text.trim parts.index) = true
  index : field.index = indexValue (Text.trim parts.index)
  layout : layoutValue parts.layout = some field.layout
  options : field.options = parts.options

/-- A well-formed body together with the field that it asks for. -/
def Spells (body : Text) (field : Field) : Prop :=
  ∃ parts, Assembles parts body ∧ parts.Means field

theorem spells_iff (body : Text) (field : Field) : Spells body field ↔ (cut body).Means field := by
  constructor
  · rintro ⟨parts, assembled, means⟩
    rw [cut_of_assembles assembled]
    exact means
  · intro means
    exact ⟨cut body, assembles_cut body, means⟩

/-! ## Reading a body -/

theorem result_readIndex (source digits : Text) :
    (readIndex source digits).result = .ok (indexValue digits) := by
  unfold readIndex indexValue Numeral.read?
  by_cases short : digits.length ≤ Numeral.digitLimit
  · simp only [if_pos short]
    rfl
  · simp only [if_neg short]
    rfl

theorem recoveries_readIndex (source digits : Text) : (readIndex source digits).recoveries = [] := by
  unfold readIndex
  split
  · rfl
  · rfl

/-- Reading an index has nothing to recover from, so both modes read it alike. -/
theorem stopped_readIndex (source digits : Text) :
    (readIndex source digits).stopped = readIndex source digits :=
  Reading.stopped_of_recoveries_nil (recoveries_readIndex source digits)

theorem readLayout_of_readable (mode : Mode) (unreadable : Malformation) {part : Option Text}
    {layout : Layout} (readable : layoutValue part = some layout) :
    readLayout mode unreadable part = Reading.pure layout := by
  cases part with
  | none =>
      cases readable
      rfl
  | some text =>
      have found : Layout.read? text = some layout := readable
      simp only [readLayout, found]

theorem readLayout_of_unreadable (mode : Mode) (unreadable : Malformation) {part : Option Text}
    (unread : layoutValue part = none) :
    readLayout mode unreadable part =
      (Reading.report mode unreadable).map fun _ => Layout.unpadded := by
  cases part with
  | none => cases unread
  | some text =>
      have missing : Layout.read? text = none := unread
      simp only [readLayout, missing]

theorem readLayout_strict (unreadable : Malformation) (part : Option Text) :
    readLayout .strict unreadable part = (readLayout .recovering unreadable part).stopped := by
  cases value : layoutValue part with
  | none =>
      rw [readLayout_of_unreadable _ _ value, readLayout_of_unreadable _ _ value, Reading.stopped_map,
        Reading.report_strict]
  | some layout =>
      rw [readLayout_of_readable _ _ value, readLayout_of_readable _ _ value, Reading.stopped_pure]

/-- A body whose index is a numeral yields a field, and its layout is the only part that may fail. -/
theorem read_of_numeral (mode : Mode) (place : Malformation.Kind → Malformation) (source : Text)
    {body : Text} (numeral : Numeral.isNumeral (Text.trim (cut body).index) = true) :
    read mode place source body =
      (readIndex source (Text.trim (cut body).index)).andThen fun index =>
        (readLayout mode (place .unreadableLayout) (cut body).layout).map fun layout =>
          Item.field source ⟨index, layout, (cut body).options⟩ := by
  simp only [read, numeral, if_true]

theorem read_of_not_numeral (mode : Mode) (place : Malformation.Kind → Malformation) (source : Text)
    {body : Text} (notNumeral : Numeral.isNumeral (Text.trim (cut body).index) = false) :
    read mode place source body =
      (Reading.report mode (place .unreadableIndex)).map fun _ => Item.unreadable source := by
  simp only [read, notNumeral, Bool.false_eq_true, if_false]

/-- Strict mode reads a body as recovering mode does, up to the first recovery. -/
theorem read_strict (place : Malformation.Kind → Malformation) (source body : Text) :
    read .strict place source body = (read .recovering place source body).stopped := by
  cases numeral : Numeral.isNumeral (Text.trim (cut body).index) with
  | true =>
      rw [read_of_numeral _ _ _ numeral, read_of_numeral _ _ _ numeral, Reading.stopped_andThen,
        stopped_readIndex]
      simp only [Reading.stopped_map, readLayout_strict]
  | false =>
      rw [read_of_not_numeral _ _ _ numeral, read_of_not_numeral _ _ _ numeral, Reading.stopped_map,
        Reading.report_strict]

/-- Strict mode accepts exactly the well-formed bodies, and reads from them what they ask for. -/
theorem result_read_strict_eq_ok_iff (place : Malformation.Kind → Malformation)
    (source body : Text) (item : Item) :
    (read .strict place source body).result = .ok item ↔
      ∃ field, Spells body field ∧ item = .field source field := by
  cases numeral : Numeral.isNumeral (Text.trim (cut body).index) with
  | false =>
      rw [read_of_not_numeral _ _ _ numeral]
      constructor
      · exact nofun
      · rintro ⟨field, spells, _⟩
        have readable := ((spells_iff body field).mp spells).numeral
        rw [numeral] at readable
        cases readable
  | true =>
      rw [read_of_numeral _ _ _ numeral, Reading.result_andThen_eq_ok_iff]
      simp only [result_readIndex, Except.ok.injEq, exists_eq_left', Reading.result_map_eq_ok_iff]
      cases value : layoutValue (cut body).layout with
      | none =>
          rw [readLayout_of_unreadable _ _ value]
          constructor
          · rintro ⟨layout, impossible, _⟩
            cases impossible
          · rintro ⟨field, spells, _⟩
            have readable := ((spells_iff body field).mp spells).layout
            rw [value] at readable
            cases readable
      | some layout =>
          rw [readLayout_of_readable _ _ value]
          constructor
          · rintro ⟨_, read, rfl⟩
            cases read
            exact ⟨_, (spells_iff body _).mpr ⟨numeral, rfl, value, rfl⟩, rfl⟩
          · rintro ⟨⟨index, fieldLayout, options⟩, spells, rfl⟩
            rcases (spells_iff body _).mp spells with ⟨_, rfl, readable, rfl⟩
            rw [value] at readable
            cases readable
            exact ⟨fieldLayout, rfl, rfl⟩

/-- Recovering mode reads an item from every body. -/
theorem result_read_recovering (place : Malformation.Kind → Malformation) (source body : Text) :
    (read .recovering place source body).result =
      .ok (if Numeral.isNumeral (Text.trim (cut body).index) then
        .field source ⟨indexValue (Text.trim (cut body).index),
          (layoutValue (cut body).layout).getD Layout.unpadded, (cut body).options⟩
      else .unreadable source) := by
  cases numeral : Numeral.isNumeral (Text.trim (cut body).index) with
  | false =>
      rw [read_of_not_numeral _ _ _ numeral]
      rfl
  | true =>
      rw [read_of_numeral _ _ _ numeral, Reading.result_andThen_eq_ok_iff]
      refine ⟨_, result_readIndex _ _, (Reading.result_map_eq_ok_iff _ _ _).mpr ?_⟩
      cases value : layoutValue (cut body).layout with
      | none =>
          rw [readLayout_of_unreadable _ _ value]
          exact ⟨Layout.unpadded, rfl, rfl⟩
      | some layout =>
          rw [readLayout_of_readable _ _ value]
          exact ⟨layout, rfl, rfl⟩

/-- A body gives cause for at most one recovery, at its own place. -/
theorem recoveries_read (place : Malformation.Kind → Malformation) (source body : Text) :
    (read .recovering place source body).recoveries = [] ∨
      ∃ kind, (read .recovering place source body).recoveries = [.recovered (place kind)] := by
  cases numeral : Numeral.isNumeral (Text.trim (cut body).index) with
  | false =>
      rw [read_of_not_numeral _ _ _ numeral]
      exact Or.inr ⟨.unreadableIndex, rfl⟩
  | true =>
      rw [read_of_numeral _ _ _ numeral, Reading.recoveries_andThen (result_readIndex _ _),
        recoveries_readIndex, List.nil_append, Reading.recoveries_map]
      cases value : layoutValue (cut body).layout with
      | none =>
          rw [readLayout_of_unreadable _ _ value]
          exact Or.inr ⟨.unreadableLayout, rfl⟩
      | some layout =>
          rw [readLayout_of_readable _ _ value]
          exact Or.inl rfl

/-! ## Braces stay out of what a body asks for -/

/-- The parts of a brace-free body are brace-free. -/
theorem Assembles.braceFree {parts : Body} {body : Text} (assembled : Assembles parts body)
    (free : BraceFree body) :
    (∀ text, parts.layout = some text → BraceFree text) ∧ BraceFree parts.options := by
  cases assembled with
  | index separatorFree => exact ⟨nofun, nofun⟩
  | options separatorFree options =>
      have behind := ((braceFree_append_iff _ _).mp free).2
      exact ⟨nofun, ((braceFree_cons_iff _ _).mp behind).2⟩
  | segment separatorFree segments =>
      have behind := ((braceFree_cons_iff _ _).mp ((braceFree_append_iff _ _).mp free).2).2
      cases segments with
      | layout layoutPart =>
          refine ⟨?_, nofun⟩
          intro text same
          cases same
          exact behind
      | layoutOptions layoutPart colonEnds =>
          have both := (braceFree_append_iff _ _).mp behind
          refine ⟨?_, ((braceFree_cons_iff _ _).mp both.2).2⟩
          intro text same
          cases same
          exact both.1

/-- Neither the pad nor the options of a field contain a brace, when its body has none. -/
theorem braceFree_cut {body : Text} (free : BraceFree body) :
    isBrace ((layoutValue (cut body).layout).getD Layout.unpadded).pad = false ∧
      BraceFree (cut body).options := by
  have parts := (assembles_cut body).braceFree free
  refine ⟨?_, parts.2⟩
  cases part : (cut body).layout with
  | none => rfl
  | some text =>
      cases found : Layout.read? text with
      | none => simp [layoutValue, found, Layout.unpadded, isBrace]
      | some layout =>
          simp only [layoutValue, found, Option.getD_some]
          rcases Layout.pad_of_read? found with space | taken
          · rw [space]
            rfl
          · exact parts.1 text part layout.pad taken

end Body
end FieldText
