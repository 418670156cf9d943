import FieldText.Proofs.Bodies

/-!
Items survive being written and read back.  The written form of a literal doubles its braces, and
the written form of a field gives its layout in full, so that a pad may even be one of the characters
that structure a field.  Each written item is cut into pieces that end where it ends, whatever is
written behind it.  Hence a whole list of items is read back as it was.
-/

namespace FieldText

namespace Field

/-- What is written between the braces of a field. -/
def body (asked : Field) : Text :=
  Numeral.decimal asked.index ++ ',' :: (asked.layout.write ++ ':' :: asked.options)

theorem write_eq (asked : Field) : asked.write = '{' :: asked.body ++ ['}'] := by
  simp [write, body]

end Field

namespace Layout

/-- A layout that is written in full is a layout part, even when its pad is a colon. -/
theorem isLayoutPart_write (layout : Layout) : Body.IsLayoutPart layout.write := by
  apply Body.isLayoutPart_of_mark
  · rw [Alignment.ofMark?_mark]
    rfl
  · intro member
    rcases List.mem_cons.mp member with mark | digit
    · cases alignment : layout.alignment <;> rw [alignment] at mark <;> cases mark
    · cases Numeral.isDigit_of_mem_decimal digit

end Layout

namespace Body

theorem isSeparator_of_isDigit {c : Char} (digit : c.isDigit = true) : isSeparator c = false := by
  cases separator : isSeparator c with
  | false => rfl
  | true => rcases (isSeparator_eq_true_iff c).mp separator with rfl | rfl <;> cases digit

theorem isBrace_of_isDigit {c : Char} (digit : c.isDigit = true) : isBrace c = false := by
  cases brace : isBrace c with
  | false => rfl
  | true => rcases (isBrace_eq_true_iff c).mp brace with rfl | rfl <;> cases digit

/-- A written body is assembled from the written parts. -/
theorem assembles_written (asked : Field) :
    Assembles ⟨Numeral.decimal asked.index, some asked.layout.write, asked.options⟩ asked.body := by
  apply Assembles.segment
  · intro c member
    exact isSeparator_of_isDigit (Numeral.isDigit_of_mem_decimal member)
  · exact .layoutOptions asked.layout.isLayoutPart_write nofun

/-- A written body is read back without any notice, in both modes. -/
theorem read_written (mode : Mode) (place : Malformation.Kind → Malformation) (source : Text)
    {asked : Field} (shortIndex : (Numeral.decimal asked.index).length ≤ Numeral.digitLimit)
    (shortWidth : (Numeral.decimal asked.layout.width).length ≤ Numeral.digitLimit) :
    read mode place source asked.body = Reading.pure (.field source asked) := by
  have cutParts := cut_of_assembles (assembles_written asked)
  have digits : Text.trim (Numeral.decimal asked.index) = Numeral.decimal asked.index :=
    Text.trim_eq_self fun c member =>
      Text.isBlank_of_isDigit (Numeral.isDigit_of_mem_decimal member)
  have numeral : Numeral.isNumeral (Text.trim (cut asked.body).index) = true := by
    rw [cutParts, digits]
    exact Numeral.isNumeral_decimal asked.index
  have readIndex : readIndex source (Numeral.decimal asked.index) = Reading.pure asked.index := by
    simp only [readIndex, Numeral.read?_decimal shortIndex]
  have layout : layoutValue (some asked.layout.write) = some asked.layout :=
    Layout.read?_write shortWidth
  rw [read_of_numeral mode place source numeral, cutParts, digits, readIndex, Reading.pure_andThen,
    readLayout_of_readable _ _ layout, Reading.map_pure]

theorem braceFree_written {asked : Field} (pad : isBrace asked.layout.pad = false)
    (options : BraceFree asked.options) : BraceFree asked.body := by
  have digits : ∀ n, BraceFree (Numeral.decimal n) := fun n c member =>
    isBrace_of_isDigit (Numeral.isDigit_of_mem_decimal member)
  have mark : isBrace asked.layout.alignment.mark = false := by
    cases asked.layout.alignment <;> rfl
  simp only [Field.body, Layout.write, braceFree_append_iff, braceFree_cons_iff]
  exact ⟨digits _, rfl, ⟨pad, mark, digits _⟩, rfl, options⟩

end Body

/-! ## The pieces of written items -/

namespace Piece

/-- The piece that one character of a literal is written as. -/
def ofChar (c : Char) : Piece := if isBrace c then doubled c else run [c]

theorem source_ofChar (c : Char) : (ofChar c).source = Item.escape [c] := by
  have escaped : Item.escape [c] = if isBrace c then [c, c] else [c] := by
    simp [Item.escape, isBrace]
  rw [escaped, ofChar]
  split
  · rfl
  · rfl

theorem complete_ofChar (c : Char) : (ofChar c).Complete := by
  cases brace : isBrace c with
  | true =>
      rw [ofChar, if_pos brace]
      exact ⟨brace, rfl⟩
  | false =>
      rw [ofChar, brace]
      exact ⟨(braceFree_cons_iff c []).mpr ⟨brace, nofun⟩, rfl⟩

theorem read_ofChar (mode : Mode) (format : Text) (offset : Nat) (c : Char) :
    (ofChar c).read mode format offset = Reading.pure (.literal [c]) := by
  cases brace : isBrace c <;> simp [ofChar, brace, read]

end Piece

namespace Item

theorem escape_cons (c : Char) (text : Text) : escape (c :: text) = escape [c] ++ escape text := by
  simp [escape]

/-- What an item must meet to be read back from its written form: a field keeps its written form as
its source, its numbers are short enough to be converted, and neither its pad nor its options
contain a brace.  A field with an unreadable index has no written form of its own. -/
def Writable : Item → Prop
  | literal _ => True
  | field source asked =>
    source = asked.write ∧ (Numeral.decimal asked.index).length ≤ Numeral.digitLimit ∧
      (Numeral.decimal asked.layout.width).length ≤ Numeral.digitLimit ∧
        isBrace asked.layout.pad = false ∧ BraceFree asked.options
  | unreadable _ => False

/-- The pieces that an item is written as: one for each character of a literal, one for a field. -/
def pieces : Item → List Piece
  | literal text => text.map Piece.ofChar
  | field _ asked => [.field asked.body]
  | unreadable _ => []

theorem sources_pieces {item : Item} (writable : item.Writable) :
    Piece.sources item.pieces = item.write := by
  cases item with
  | literal text =>
      induction text with
      | nil => rfl
      | cons c text inductionHypothesis =>
          have rest : Piece.sources (text.map Piece.ofChar) = escape text := inductionHypothesis trivial
          rw [pieces, List.map_cons, Piece.sources_cons, Piece.source_ofChar, rest, write, ← escape_cons]
  | field source asked => simp [pieces, write, Field.write_eq, Piece.source]
  | unreadable source => cases writable

theorem complete_of_mem_pieces {item : Item} (writable : item.Writable) :
    ∀ piece ∈ item.pieces, piece.Complete := by
  cases item with
  | literal text =>
      intro piece member
      rcases List.mem_map.mp member with ⟨c, _, rfl⟩
      exact Piece.complete_ofChar c
  | field source asked =>
      rcases writable with ⟨_, _, _, pad, options⟩
      intro piece member
      rw [List.mem_singleton.mp member]
      exact ⟨Body.braceFree_written pad options, rfl⟩
  | unreadable source => cases writable

theorem sources_flatMap_pieces {items : List Item} (writable : ∀ item ∈ items, item.Writable) :
    Piece.sources (items.flatMap pieces) = writeAll items := by
  induction items with
  | nil => rfl
  | cons item items inductionHypothesis =>
      rw [List.flatMap_cons, Piece.sources_append, sources_pieces (writable item List.mem_cons_self),
        inductionHypothesis fun later member => writable later (List.mem_cons_of_mem item member)]
      rfl

end Item

/-! ## Reading them back -/

namespace Format

/-- Reading the characters of a written literal puts the literal in front of what follows. -/
theorem readAll_literal_append (mode : Mode) (format : Text) (offset : Nat) (text : Text)
    (rest : List Piece) :
    readAll mode format offset (text.map Piece.ofChar ++ rest) =
      (readAll mode format (offset + (Item.escape text).length) rest).map
        (Item.literal text).attach := by
  induction text generalizing offset with
  | nil =>
      rw [Item.attach_literal_nil, Reading.map_id]
      rfl
  | cons c text inductionHypothesis =>
      rw [List.map_cons, List.cons_append, readAll, Piece.read_ofChar, Reading.pure_andThen,
        inductionHypothesis, Reading.map_map, Piece.source_ofChar, Item.escape_cons c text,
        List.length_append, Nat.add_assoc]
      simp only [Item.attach_literal_attach_literal, List.singleton_append]

/-- The pieces of written items are read to these items, merged. -/
theorem readAll_written (mode : Mode) (format : Text) (offset : Nat) {items : List Item}
    (writable : ∀ item ∈ items, item.Writable) :
    readAll mode format offset (items.flatMap Item.pieces) = Reading.pure (Item.merge items) := by
  induction items generalizing offset with
  | nil => rfl
  | cons item items inductionHypothesis =>
      have readRest := fun behind => inductionHypothesis behind fun later member =>
        writable later (List.mem_cons_of_mem item member)
      rw [List.flatMap_cons, Item.merge_cons]
      cases item with
      | literal text =>
          rw [Item.pieces, readAll_literal_append, readRest, Reading.map_pure]
      | field source asked =>
          rcases writable _ List.mem_cons_self with ⟨rfl, shortIndex, shortWidth, _⟩
          have read := Body.read_written mode (fun kind => ⟨kind, offset, format⟩)
            (Piece.field asked.body).source shortIndex shortWidth
          rw [Item.pieces, List.singleton_append, readAll, Piece.read, read, Reading.pure_andThen,
            readRest, Reading.map_pure, Field.write_eq]
          rfl
      | unreadable source => cases writable _ List.mem_cons_self

/-- Items in merged form are read back from their written form, in both modes and without any
notice. -/
theorem parse_writeAll (mode : Mode) {items : List Item} (merged : Item.IsMerged items)
    (writable : ∀ item ∈ items, item.Writable) :
    parse mode (Item.writeAll items) = Reading.pure items := by
  have complete : ∀ piece ∈ items.flatMap Item.pieces, piece.Complete := by
    intro piece member
    rcases List.mem_flatMap.mp member with ⟨item, itemMember, pieceMember⟩
    exact Item.complete_of_mem_pieces (writable item itemMember) piece pieceMember
  rw [← Item.sources_flatMap_pieces writable, parse_sources mode complete,
    readAll_written mode _ 0 writable, Item.merge_eq_self merged]

/-- Two fields in a row whose pads are a colon and a comma, between literals that consist of
braces. -/
def bracesAtSeams : List Item :=
  let first : Field := ⟨0, ⟨.left, 3, ':'⟩, [':', 'x']⟩
  let second : Field := ⟨12, ⟨.center, 0, ','⟩, []⟩
  [.literal ['{'], .field first.write first, .field second.write second, .literal ['}', '{']]

theorem parse_writeAll_bracesAtSeams :
    Item.IsMerged bracesAtSeams ∧ (∀ item ∈ bracesAtSeams, item.Writable) ∧
      ∀ mode, parse mode (Item.writeAll bracesAtSeams) = Reading.pure bracesAtSeams := by
  have merged : Item.IsMerged bracesAtSeams := by
    refine ⟨by simp [bracesAtSeams], ?_⟩
    simp [bracesAtSeams, Item.isLiteral]
  have writable : ∀ item ∈ bracesAtSeams, item.Writable := by
    simp only [bracesAtSeams, List.forall_mem_cons, Item.Writable, List.not_mem_nil, false_implies,
      implies_true]
    decide
  exact ⟨merged, writable, fun mode => parse_writeAll mode merged writable⟩

end Format
end FieldText
