import FieldText.Proofs.Language
import FieldText.Proofs.Partition

/-!
The two modes are one parser.  Strict mode does what recovering mode does until the first recovery,
and there it ends with the malformed place that recovering mode notes.

The pieces in front of that place are pieces of the format language.  A piece is not recognised by
what follows it, so the text in front of the place, taken on its own, is accepted by strict mode.
-/

namespace FieldText

namespace Piece

theorem read_strict (piece : Piece) (format : Text) (offset : Nat) :
    piece.read .strict format offset = (piece.read .recovering format offset).stopped := by
  cases piece with
  | run text => rfl
  | doubled brace => rfl
  | field body => exact Body.read_strict (fun kind => ⟨kind, offset, format⟩) (field body).source body
  | _ => simp only [read, Reading.stopped_map, Reading.report_strict]

/-- A piece that is read without recovery spells the item that is read. -/
theorem spells_of_recoveries_nil {piece : Piece} (proper : piece.Proper) {format : Text} {offset : Nat}
    (none : (piece.read .recovering format offset).recoveries = []) : ∃ item, piece.Spells item := by
  rcases read_recovering_covers proper format offset with ⟨item, read, _⟩
  have readStrict : (piece.read .strict format offset).result = .ok item := by
    rw [read_strict, Reading.result_stopped_eq_ok_iff]
    exact ⟨none, read⟩
  exact ⟨item, (result_read_strict_eq_ok_iff proper format offset item).mp readStrict⟩

/-- A piece gives cause for at most one recovery, at the brace that it begins with. -/
theorem recoveries_read (piece : Piece) (format : Text) (offset : Nat) :
    (piece.read .recovering format offset).recoveries = [] ∨
      ∃ kind brace rest,
        (piece.read .recovering format offset).recoveries = [.recovered ⟨kind, offset, format⟩] ∧
          piece.source = brace :: rest ∧ isBrace brace = true := by
  cases piece with
  | run text => exact Or.inl rfl
  | doubled brace => exact Or.inl rfl
  | field body =>
      rcases Body.recoveries_read (fun kind => ⟨kind, offset, format⟩) (field body).source body with
        none | ⟨kind, recovered⟩
      · exact Or.inl none
      · exact Or.inr ⟨kind, '{', body ++ ['}'], recovered, rfl, rfl⟩
  | unmatched => exact Or.inr ⟨.unmatchedBrace, '}', [], rfl, rfl, rfl⟩
  | nested inner => exact Or.inr ⟨.nestedBrace, '{', inner, rfl, rfl, rfl⟩
  | unterminated inner => exact Or.inr ⟨.unterminatedField, '{', inner, rfl, rfl, rfl⟩

end Piece

namespace Format

theorem readAll_strict (format : Text) (offset : Nat) (pieces : List Piece) :
    readAll .strict format offset pieces = (readAll .recovering format offset pieces).stopped := by
  induction pieces generalizing offset with
  | nil => rfl
  | cons piece pieces inductionHypothesis =>
      rw [readAll, readAll, Reading.stopped_andThen, Piece.read_strict]
      simp only [Reading.stopped_map, inductionHypothesis]

/-- Strict mode reads a format string as recovering mode does, up to the first recovery. -/
theorem parse_strict (format : Text) : parse .strict format = (parse .recovering format).stopped := by
  rw [parse_eq_readAll, parse_eq_readAll, readAll_strict]

/-- The first recovery is at the brace of some piece, and the pieces in front of it are pieces of
the format language. -/
theorem first_recovery {format : Text} {offset : Nat} {pieces : List Piece}
    (proper : ∀ piece ∈ pieces, piece.Proper) {first : Notice} {later : List Notice}
    (found : (readAll .recovering format offset pieces).recoveries = first :: later) :
    ∃ front piece back spelled kind brace rest,
      pieces = front ++ piece :: back ∧ List.Forall₂ Piece.Spells front spelled ∧
        first = .recovered ⟨kind, (offset + (Piece.sources front).length : Nat), format⟩ ∧
          piece.source = brace :: rest ∧ isBrace brace = true := by
  induction pieces generalizing offset with
  | nil => cases found
  | cons piece pieces inductionHypothesis =>
      have properPiece := proper piece List.mem_cons_self
      rcases Piece.read_recovering_covers properPiece format offset with ⟨item, read, _⟩
      rw [readAll, Reading.recoveries_andThen read, Reading.recoveries_map] at found
      rcases piece.recoveries_read format offset with
        none | ⟨kind, brace, rest, recovered, source, isBrace⟩
      · rw [none, List.nil_append] at found
        rcases Piece.spells_of_recoveries_nil properPiece none with ⟨item, spells⟩
        rcases inductionHypothesis (fun later member => proper later (List.mem_cons_of_mem piece member))
          found with ⟨front, next, back, spelled, kind, brace, rest, rfl, spellsFront, same, begins⟩
        refine ⟨piece :: front, next, back, item :: spelled, kind, brace, rest, rfl,
          .cons spells spellsFront, ?_, begins⟩
        rw [same, Piece.sources_cons, List.length_append, Nat.add_assoc]
      · rw [recovered] at found
        have head := (List.cons.inj found).1
        exact ⟨[], piece, pieces, [], kind, brace, rest, rfl, .nil, head.symm, source, isBrace⟩

/-- Where nothing is recovered from, the modes read the same items. -/
theorem parse_agree_of_recoveries_nil {format : Text}
    (none : (parse .recovering format).recoveries = []) :
    ∃ items, (parse .strict format).result = .ok items ∧ (parse .recovering format).result = .ok items := by
  rcases readAll_recovering_covers format 0 (Piece.proper_of_mem_splitAll format) with
    ⟨items, _, read, _⟩
  rw [← parse_eq_readAll] at read
  rw [parse_strict, Reading.stopped_of_recoveries_nil none]
  exact ⟨items, read, read⟩

/-- Strict mode ends at the first recovery.  A brace stands there, and the text in front of it is
accepted, since it is cut there anyway. -/
theorem parse_strict_of_recoveries_cons {format : Text} {first : Notice} {later : List Notice}
    (found : (parse .recovering format).recoveries = first :: later) :
    ∃ (kind : Malformation.Kind) (position : Nat),
      first = .recovered ⟨kind, position, format⟩ ∧
      (parse .strict format).result = .error ⟨kind, position, format⟩ ∧
      (∃ inside : position < format.length, isBrace format[position] = true) ∧
      ∃ items, (parse .strict (format.take position)).result = .ok items := by
  have foundThere := found
  rw [parse_eq_readAll] at foundThere
  rcases first_recovery (Piece.proper_of_mem_splitAll format) foundThere with
    ⟨front, piece, back, spelled, kind, brace, rest, cut, spells, rfl, source, isBrace⟩
  have whole : Piece.sources front ++ brace :: (rest ++ Piece.sources back) = format := by
    rw [← Piece.sources_splitAll format, cut, Piece.sources_append, Piece.sources_cons, source,
      List.cons_append]
  refine ⟨kind, (Piece.sources front).length, by rw [Nat.zero_add], ?_, ?_, ?_⟩
  · rw [parse_strict, Reading.stopped_of_recoveries_cons found, Nat.zero_add]
  · have atBrace : format[(Piece.sources front).length]? = some brace := by
      rw [← whole]
      simp
    rcases List.getElem?_eq_some_iff.mp atBrace with ⟨inside, same⟩
    exact ⟨inside, same ▸ isBrace⟩
  · have inFront : format.take (Piece.sources front).length = Piece.sources front := by
      rw [← whole, List.take_left]
    rw [inFront]
    exact ⟨_, result_parse_strict_of_derives ⟨rfl, spells⟩⟩

/-- Strict mode and recovering mode agree.  Strict mode succeeds if and only if recovering mode
recovers from nothing, and then both read the same items.  Otherwise strict mode ends with the
malformed place of the first recovery; a brace of the format string stands there, and what is in
front of it is accepted by strict mode. -/
theorem parse_strict_ends_at_first_recovery (format : Text) :
    ((∃ items, (parse .strict format).result = .ok items) ↔ (parse .recovering format).recoveries = []) ∧
    ((parse .recovering format).recoveries = [] →
      ∃ items, (parse .strict format).result = .ok items ∧ (parse .recovering format).result = .ok items) ∧
    ∀ first later, (parse .recovering format).recoveries = first :: later →
      ∃ (kind : Malformation.Kind) (position : Nat),
        first = .recovered ⟨kind, position, format⟩ ∧
        (parse .strict format).result = .error ⟨kind, position, format⟩ ∧
        (∃ inside : position < format.length, isBrace format[position] = true) ∧
        ∃ items, (parse .strict (format.take position)).result = .ok items := by
  refine ⟨⟨?_, ?_⟩, parse_agree_of_recoveries_nil, fun _ _ => parse_strict_of_recoveries_cons⟩
  · rintro ⟨items, read⟩
    rw [parse_strict, Reading.result_stopped_eq_ok_iff] at read
    exact read.1
  · intro none
    rcases parse_agree_of_recoveries_nil none with ⟨items, read, _⟩
    exact ⟨items, read⟩

end Format
end FieldText
