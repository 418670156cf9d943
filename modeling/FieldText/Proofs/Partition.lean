import FieldText.Proofs.Bodies
import Mathlib.Data.List.Forall2

/-!
Recovering mode loses nothing.  Whatever the format string, its characters are dealt out in order to
the items that are read from it.

An item covers a slice of the format string.  A field is its slice.  A literal may be shorter than its
slice, because a doubled brace stands for one brace.  Merging two literals joins their slices, so the
slices of merged items make up the same text as before, and since no literal is empty in the end, no
slice is empty either.
-/

namespace FieldText

namespace Text

/-- Some doubled braces of a text, no two of them overlapping, are replaced by one brace each, and
nothing else is changed. -/
inductive Unescapes : Text → Text → Prop
  | nil : Unescapes [] []
  | keep (c : Char) {escaped text : Text} (rest : Unescapes escaped text) :
      Unescapes (c :: escaped) (c :: text)
  | collapse {brace : Char} (isBrace : isBrace brace = true) {escaped text : Text}
      (rest : Unescapes escaped text) : Unescapes (brace :: brace :: escaped) (brace :: text)

theorem Unescapes.refl (text : Text) : Unescapes text text := by
  induction text with
  | nil => exact .nil
  | cons c text inductionHypothesis => exact .keep c inductionHypothesis

theorem Unescapes.append {escaped text moreEscaped more : Text} (front : Unescapes escaped text)
    (back : Unescapes moreEscaped more) : Unescapes (escaped ++ moreEscaped) (text ++ more) := by
  induction front with
  | nil => exact back
  | keep c _ inductionHypothesis => exact .keep c inductionHypothesis
  | collapse isBrace _ inductionHypothesis => exact .collapse isBrace inductionHypothesis

end Text

namespace Item

/-- The text between two braces, with the braces. -/
def IsBraced (text : Text) : Prop := ∃ body, text = '{' :: body ++ ['}'] ∧ BraceFree body

/-- The slice of a format string that an item was read from. -/
def Covers : Item → Text → Prop
  | literal text, slice => Text.Unescapes slice text
  | field source _, slice => source = slice ∧ IsBraced slice
  | unreadable source, slice => source = slice ∧ IsBraced slice

/-- Only the empty literal covers the empty slice. -/
theorem Covers.slice_ne_nil {item : Item} {slice : Text} (covers : item.Covers slice)
    (notEmpty : item ≠ literal []) : slice ≠ [] := by
  rintro rfl
  cases item with
  | literal text =>
      cases covers
      exact notEmpty rfl
  | _ =>
      rcases covers with ⟨_, body, same, _⟩
      cases same

theorem slices_ne_nil {items : List Item} {slices : List Text}
    (covers : List.Forall₂ Covers items slices) (noEmptyLiteral : literal [] ∉ items) :
    ∀ slice ∈ slices, slice ≠ [] := by
  induction covers with
  | nil => exact nofun
  | cons first _ inductionHypothesis =>
      intro slice member
      rcases List.mem_cons.mp member with same | later
      · subst same
        exact first.slice_ne_nil fun empty => noEmptyLiteral (empty ▸ List.mem_cons_self)
      · exact inductionHypothesis (fun empty => noEmptyLiteral (List.mem_cons_of_mem _ empty)) slice later

/-- Merging an item with those behind it keeps the text that they cover. -/
theorem Covers.attach {item : Item} {slice : Text} (covers : item.Covers slice) {items : List Item}
    {slices : List Text} (rest : List.Forall₂ Covers items slices) :
    ∃ merged, merged.flatten = slice ++ slices.flatten ∧
      List.Forall₂ Covers (item.attach items) merged := by
  cases item with
  | literal text =>
      cases text with
      | nil =>
          cases covers
          exact ⟨slices, rfl, rest⟩
      | cons c text =>
          cases rest with
          | nil => exact ⟨[slice], rfl, .cons covers .nil⟩
          | @cons head firstSlice items slices first rest =>
              cases head with
              | literal next =>
                  refine ⟨(slice ++ firstSlice) :: slices, by simp, .cons ?_ rest⟩
                  exact Text.Unescapes.append covers first
              | _ => exact ⟨slice :: firstSlice :: slices, rfl, .cons covers (.cons first rest)⟩
  | _ => exact ⟨slice :: slices, rfl, .cons covers rest⟩

/-- A field asks for a pad that is no brace and for options without braces.  Its index and its width
are natural numbers as they stand. -/
def AsksWithoutBraces : Item → Prop
  | field _ asked => isBrace asked.layout.pad = false ∧ BraceFree asked.options
  | _ => True

theorem asksWithoutBraces_attach {item : Item} (sound : item.AsksWithoutBraces) {items : List Item}
    (rest : ∀ later ∈ items, later.AsksWithoutBraces) :
    ∀ merged ∈ item.attach items, merged.AsksWithoutBraces := by
  cases item with
  | literal text =>
      cases text with
      | nil => exact rest
      | cons c text =>
          cases items with
          | nil => simp [attach, AsksWithoutBraces]
          | cons head items =>
              cases head with
              | literal next => simpa [attach, AsksWithoutBraces] using rest
              | _ => simpa [attach, AsksWithoutBraces] using rest
  | _ => simpa [attach] using ⟨sound, rest⟩

end Item

/-! ## Recovering mode reads every piece -/

namespace Piece

/-- Recovering mode reads from a piece an item that covers it. -/
theorem read_recovering_covers {piece : Piece} (proper : piece.Proper) (format : Text) (offset : Nat) :
    ∃ item, (piece.read .recovering format offset).result = .ok item ∧ item.Covers piece.source ∧
      item.AsksWithoutBraces := by
  cases piece with
  | run text => exact ⟨_, rfl, .refl text, trivial⟩
  | doubled brace => exact ⟨_, rfl, .collapse proper .nil, trivial⟩
  | field body =>
      refine ⟨_, Body.result_read_recovering _ _ body, ?_⟩
      split
      · exact ⟨⟨rfl, body, rfl, proper⟩, Body.braceFree_cut proper⟩
      · exact ⟨⟨rfl, body, rfl, proper⟩, trivial⟩
  | unmatched => exact ⟨_, rfl, .refl _, trivial⟩
  | nested inner => exact ⟨_, rfl, .refl _, trivial⟩
  | unterminated inner => exact ⟨_, rfl, .refl _, trivial⟩

end Piece

namespace Format

/-- Recovering mode reads pieces to merged items that cover the same text. -/
theorem readAll_recovering_covers (format : Text) (offset : Nat) {pieces : List Piece}
    (proper : ∀ piece ∈ pieces, piece.Proper) :
    ∃ items slices, (readAll .recovering format offset pieces).result = .ok items ∧
      slices.flatten = Piece.sources pieces ∧ List.Forall₂ Item.Covers items slices ∧
      Item.IsMerged items ∧ ∀ item ∈ items, item.AsksWithoutBraces := by
  induction pieces generalizing offset with
  | nil => exact ⟨[], [], rfl, rfl, .nil, .nil, nofun⟩
  | cons piece pieces inductionHypothesis =>
      rcases Piece.read_recovering_covers (proper piece List.mem_cons_self) format offset with
        ⟨item, read, covers, sound⟩
      rcases inductionHypothesis (offset + piece.source.length) fun later member =>
          proper later (List.mem_cons_of_mem piece member) with
        ⟨items, slices, readRest, whole, coversRest, merged, soundRest⟩
      rcases covers.attach coversRest with ⟨joined, joinedWhole, coversAll⟩
      refine ⟨item.attach items, joined, ?_, ?_, coversAll, merged.attach item,
        Item.asksWithoutBraces_attach sound soundRest⟩
      · rw [readAll, Reading.result_andThen_eq_ok_iff]
        exact ⟨item, read, (Reading.result_map_eq_ok_iff _ _ _).mpr ⟨items, readRest, rfl⟩⟩
      · rw [joinedWhole, whole, Piece.sources_cons]

/-! ## The loop over the format string -/

/-- Splitting an item off inside the format string succeeds in recovering mode, takes at least one
character and stays inside. -/
theorem splitItem_recovering_advances {format : Text} {start : Nat} (inside : start < format.length) :
    ∃ item stop, (splitItem .recovering format start).result = .ok (item, stop) ∧ start < stop ∧
      stop ≤ format.length := by
  have nonempty : format.drop start ≠ [] := by
    simpa using inside
  rcases Piece.read_recovering_covers (Piece.proper_split (format.drop start)) format start with
    ⟨item, read, _⟩
  have shorter := Piece.length_split_lt nonempty
  rw [List.length_drop] at shorter
  refine ⟨item, format.length - (Piece.split (format.drop start)).2.length, ?_, by omega, by omega⟩
  rw [splitItem, Reading.result_map_eq_ok_iff]
  exact ⟨item, read, rfl⟩

/-- The rest of a format string is read by splitting an item off and going on where it ends. -/
theorem readFrom_eq_splitItem (mode : Mode) {format : Text} {start : Nat}
    (inside : start < format.length) :
    readFrom mode format start (format.drop start) =
      (splitItem mode format start).andThen fun next =>
        (readFrom mode format next.2 (format.drop next.2)).map fun items => next.1 :: items := by
  have nonempty : format.drop start ≠ [] := by
    simpa using inside
  have whole := Piece.source_split (format.drop start)
  have total := congrArg List.length whole
  rw [List.length_append, List.length_drop] at total
  have stop : format.length - (Piece.split (format.drop start)).2.length =
      start + (Piece.split (format.drop start)).1.source.length := by omega
  have rest : format.drop (start + (Piece.split (format.drop start)).1.source.length) =
      (Piece.split (format.drop start)).2 := by
    rw [← List.drop_drop]
    exact (congrArg (List.drop _) whole.symm).trans List.drop_left
  rw [readFrom, dif_neg nonempty, splitItem, Reading.andThen_map]
  simp only [stop, rest]

/-- Recovering mode deals the format string out to its items.  Every step of the loop takes at least
one character and stays inside.  The items cover consecutive slices that make up the format string,
no slice is empty, and the items are in merged form. -/
theorem parse_recovering_partitions (format : Text) :
    (∀ start < format.length,
      (∃ item stop, (splitItem .recovering format start).result = .ok (item, stop) ∧ start < stop ∧
        stop ≤ format.length) ∧
      readFrom .recovering format start (format.drop start) =
        (splitItem .recovering format start).andThen fun next =>
          (readFrom .recovering format next.2 (format.drop next.2)).map fun items => next.1 :: items) ∧
    ∃ items slices, (parse .recovering format).result = .ok items ∧ slices.flatten = format ∧
      (∀ slice ∈ slices, slice ≠ []) ∧ List.Forall₂ Item.Covers items slices ∧
      Item.IsMerged items ∧ ∀ item ∈ items, item.AsksWithoutBraces := by
  refine ⟨fun start inside => ⟨splitItem_recovering_advances inside, readFrom_eq_splitItem _ inside⟩, ?_⟩
  rcases readAll_recovering_covers format 0 (Piece.proper_of_mem_splitAll format) with
    ⟨items, slices, read, whole, covers, merged, sound⟩
  rw [Piece.sources_splitAll] at whole
  rw [← parse_eq_readAll] at read
  exact ⟨items, slices, read, whole, Item.slices_ne_nil covers merged.noEmptyLiteral, covers, merged,
    sound⟩

end Format
end FieldText
