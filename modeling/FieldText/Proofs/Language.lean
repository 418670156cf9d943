import FieldText.Proofs.Bodies
import Mathlib.Data.List.Forall2

/-!
The format language.  A format string of the language is any concatenation of runs without braces,
doubled braces and well-formed fields, and it stands for the items that these spell.  This
definition does not say how the pieces are to be found.

Strict mode accepts exactly this language.  The scanner never needs to try a second cut, since two
cuts of one format string can differ only in where they break a run: the doubled braces and the
fields are the same, at the same offsets.
-/

namespace FieldText

namespace Piece

/-- The pieces of the format language, each with the item that it spells. -/
inductive Spells : Piece → Item → Prop
  | run {text : Text} (free : BraceFree text) : Spells (run text) (.literal text)
  | doubled {brace : Char} (isBrace : isBrace brace = true) :
      Spells (doubled brace) (.literal [brace])
  | field {body : Text} {asked : Field} (free : BraceFree body) (spells : Body.Spells body asked) :
      Spells (field body) (.field ('{' :: body ++ ['}']) asked)

theorem Spells.complete {piece : Piece} {item : Item} (spells : piece.Spells item) :
    piece.Complete := by
  cases spells with
  | run free => exact ⟨free, rfl⟩
  | doubled isBrace => exact ⟨isBrace, rfl⟩
  | field free _ => exact ⟨free, rfl⟩

/-- Strict mode reads from a piece the item that it spells, wherever the piece stands. -/
theorem result_read_strict_eq_ok_iff {piece : Piece} (proper : piece.Proper) (format : Text)
    (offset : Nat) (item : Item) :
    (piece.read .strict format offset).result = .ok item ↔ piece.Spells item := by
  cases piece with
  | run text =>
      constructor
      · intro read
        cases read
        exact .run proper
      · intro spells
        cases spells
        rfl
  | doubled brace =>
      constructor
      · intro read
        cases read
        exact .doubled proper
      · intro spells
        cases spells
        rfl
  | field body =>
      refine (Body.result_read_strict_eq_ok_iff _ _ body item).trans ?_
      constructor
      · rintro ⟨asked, spells, rfl⟩
        exact .field proper spells
      · intro spells
        cases spells with
        | @field body asked free spells => exact ⟨asked, spells, rfl⟩
  | _ =>
      constructor
      · exact nofun
      · exact nofun

/-- Where the doubled braces and the fields of a cut stand, counted from an offset. -/
def landmarks : Nat → List Piece → List (Nat × Piece)
  | _, [] => []
  | offset, run text :: pieces => landmarks (offset + text.length) pieces
  | offset, piece :: pieces => (offset, piece) :: landmarks (offset + piece.source.length) pieces

theorem landmarks_prepend (offset : Nat) (piece : Piece) (pieces : List Piece) :
    landmarks offset (piece.prepend pieces) = landmarks offset (piece :: pieces) := by
  cases piece with
  | run text =>
      cases text with
      | nil => rfl
      | cons c text =>
          cases pieces with
          | nil => rfl
          | cons head pieces =>
              cases head with
              | run next =>
                  simp only [prepend, landmarks, List.length_append, Nat.add_assoc]
              | _ => rfl
  | _ => rfl

theorem landmarks_foldr_prepend (offset : Nat) (pieces : List Piece) :
    landmarks offset (pieces.foldr prepend []) = landmarks offset pieces := by
  induction pieces generalizing offset with
  | nil => rfl
  | cons piece pieces inductionHypothesis =>
      rw [List.foldr_cons, landmarks_prepend]
      cases piece with
      | run text => exact inductionHypothesis (offset + text.length)
      | _ => simp only [landmarks, inductionHypothesis]

end Piece

namespace Format

/-- A format string is cut into pieces of the language, which spell the items. -/
structure Derives (format : Text) (pieces : List Piece) (items : List Item) : Prop where
  whole : Piece.sources pieces = format
  spelled : List.Forall₂ Piece.Spells pieces items

theorem Derives.complete {format : Text} {pieces : List Piece} {items : List Item}
    (derives : Derives format pieces items) : ∀ piece ∈ pieces, piece.Complete := by
  have spelled := derives.spelled
  clear derives
  induction spelled with
  | nil => exact nofun
  | cons first _ inductionHypothesis =>
      intro piece member
      rcases List.mem_cons.mp member with same | later
      · exact same ▸ first.complete
      · exact inductionHypothesis piece later

/-- Strict mode reads pieces if each of them spells an item. -/
theorem result_readAll_strict_eq_ok_iff (format : Text) (offset : Nat) {pieces : List Piece}
    (proper : ∀ piece ∈ pieces, piece.Proper) (items : List Item) :
    (readAll .strict format offset pieces).result = .ok items ↔
      ∃ spelled, List.Forall₂ Piece.Spells pieces spelled ∧ Item.merge spelled = items := by
  induction pieces generalizing offset items with
  | nil =>
      constructor
      · intro read
        cases read
        exact ⟨[], .nil, rfl⟩
      · rintro ⟨spelled, nothing, rfl⟩
        cases nothing
        rfl
  | cons piece pieces inductionHypothesis =>
      have readPiece := Piece.result_read_strict_eq_ok_iff (proper piece List.mem_cons_self) format offset
      have readRest := inductionHypothesis (offset + piece.source.length) fun later member =>
        proper later (List.mem_cons_of_mem piece member)
      rw [readAll, Reading.result_andThen_eq_ok_iff]
      simp only [readPiece, Reading.result_map_eq_ok_iff, readRest]
      constructor
      · rintro ⟨item, spells, _, ⟨spelled, spellsRest, rfl⟩, rfl⟩
        exact ⟨item :: spelled, .cons spells spellsRest, Item.merge_cons item spelled⟩
      · rintro ⟨_, spellsAll, rfl⟩
        cases spellsAll with
        | @cons _ item _ spelled spells spellsRest =>
            exact ⟨item, spells, _, ⟨spelled, spellsRest, rfl⟩, (Item.merge_cons item spelled).symm⟩

/-- A derivation is what strict mode reads. -/
theorem result_parse_strict_of_derives {format : Text} {pieces : List Piece} {items : List Item}
    (derives : Derives format pieces items) :
    (parse .strict format).result = .ok (Item.merge items) := by
  have complete := derives.complete
  rw [← derives.whole, parse_sources .strict complete, result_readAll_strict_eq_ok_iff _ _
    fun piece member => (complete piece member).proper]
  exact ⟨items, derives.spelled, rfl⟩

/-- What strict mode reads has a derivation, along the pieces of the scanner. -/
theorem derives_of_result_parse_strict {format : Text} {items : List Item}
    (read : (parse .strict format).result = .ok items) :
    ∃ spelled, Derives format (Piece.splitAll format) spelled ∧ Item.merge spelled = items := by
  rw [parse_eq_readAll, result_readAll_strict_eq_ok_iff _ _ (Piece.proper_of_mem_splitAll format)] at read
  rcases read with ⟨spelled, spells, merged⟩
  exact ⟨spelled, ⟨Piece.sources_splitAll format, spells⟩, merged⟩

/-- The landmarks of a derivation are those that the scanner finds. -/
theorem Derives.landmarks_eq {format : Text} {pieces : List Piece} {items : List Item}
    (derives : Derives format pieces items) :
    Piece.landmarks 0 pieces = Piece.landmarks 0 (Piece.splitAll format) := by
  have found := Piece.splitAll_sources_append derives.complete []
  rw [List.append_nil, Piece.splitAll_nil, derives.whole] at found
  rw [found, Piece.landmarks_foldr_prepend]

/-- Strict mode accepts exactly the format language: a format string is read to certain items if and
only if it has a derivation whose items merge to these, and all derivations of a format string agree
on where its doubled braces and its fields are. -/
theorem parse_strict_accepts_language (format : Text) :
    (∀ items, (parse .strict format).result = .ok items ↔
      ∃ pieces spelled, Derives format pieces spelled ∧ Item.merge spelled = items) ∧
    ∀ firstPieces firstItems secondPieces secondItems,
      Derives format firstPieces firstItems → Derives format secondPieces secondItems →
        Piece.landmarks 0 firstPieces = Piece.landmarks 0 secondPieces := by
  constructor
  · intro items
    constructor
    · intro read
      rcases derives_of_result_parse_strict read with ⟨spelled, derives, merged⟩
      exact ⟨Piece.splitAll format, spelled, derives, merged⟩
    · rintro ⟨pieces, spelled, derives, rfl⟩
      exact result_parse_strict_of_derives derives
  · intro firstPieces firstItems secondPieces secondItems first second
    exact first.landmarks_eq.trans second.landmarks_eq.symm

end Format
end FieldText
