import FieldText.Format.Parsing
import FieldText.Proofs.Items
import FieldText.Proofs.Readings
import Mathlib.Data.List.TakeWhile

/-!
The pieces of a whole format string.  Cutting a text into pieces looks neither at the mode nor at
what stands in the fields, so parsing falls into two passes: cut, and then read piece by piece.

A piece of the format language proper (a run, a doubled brace or a field) is complete.  Complete
pieces need no look ahead beyond their last character.  Whatever text follows them, cutting finds
them again, except that a run may go on.  Since neighbouring literals are merged afterwards, reading
cannot tell where a run was cut, and a text may be read along any cut into complete pieces.
-/

namespace FieldText

/-! ## Cutting a text where a condition first fails -/

namespace Text

theorem cut_of_all {holds : Char → Bool} {text : Text} (all : ∀ c ∈ text, holds c = true) :
    text.takeWhile holds = text ∧ text.dropWhile holds = [] :=
  ⟨List.takeWhile_eq_self_iff.mpr all, List.dropWhile_eq_nil_iff.mpr all⟩

theorem cut_append {holds : Char → Bool} {front : Text} (all : ∀ c ∈ front, holds c = true)
    (stop : Char) (fails : holds stop = false) (rest : Text) :
    (front ++ stop :: rest).takeWhile holds = front ∧
      (front ++ stop :: rest).dropWhile holds = stop :: rest := by
  rw [List.takeWhile_append_of_pos all, List.dropWhile_append_of_pos all]
  simp [fails]

/-- A text is cut in front of the first character that fails the condition, or nowhere. -/
theorem cut_cases (holds : Char → Bool) (text : Text) :
    (text.takeWhile holds = text ∧ text.dropWhile holds = []) ∨
      ∃ stop rest, text.dropWhile holds = stop :: rest ∧ holds stop = false ∧
        text.takeWhile holds ++ stop :: rest = text := by
  have whole := List.takeWhile_append_dropWhile (p := holds) (l := text)
  have head := List.head?_dropWhile_not holds text
  cases behind : text.dropWhile holds with
  | nil =>
      rw [behind, List.append_nil] at whole
      exact Or.inl ⟨whole, rfl⟩
  | cons stop rest =>
      rw [behind] at whole head
      exact Or.inr ⟨stop, rest, rfl, by simpa using head, whole⟩

end Text

/-! ## Text without braces -/

/-- Neither brace occurs in the text. -/
def BraceFree (text : Text) : Prop := ∀ c ∈ text, isBrace c = false

instance (text : Text) : Decidable (BraceFree text) :=
  List.decidableBAll (fun c => isBrace c = false) text

theorem isBrace_eq_true_iff (c : Char) : isBrace c = true ↔ c = '{' ∨ c = '}' := by
  simp [isBrace]

theorem braceFree_append_iff (front back : Text) :
    BraceFree (front ++ back) ↔ BraceFree front ∧ BraceFree back := by
  simp only [BraceFree, List.mem_append, or_imp, forall_and]

theorem braceFree_cons_iff (c : Char) (text : Text) :
    BraceFree (c :: text) ↔ isBrace c = false ∧ BraceFree text := by
  simp only [BraceFree, List.mem_cons, or_imp, forall_and, forall_eq]

theorem braceFree_takeWhile (text : Text) : BraceFree (text.takeWhile fun c => !isBrace c) := by
  intro c member
  simpa using List.mem_takeWhile_imp member

theorem takeWhile_braceFree_append {text : Text} (free : BraceFree text) (rest : Text) :
    ((text ++ rest).takeWhile fun c => !isBrace c) = text ++ rest.takeWhile fun c => !isBrace c :=
  List.takeWhile_append_of_pos fun c member => by simp [free c member]

theorem dropWhile_braceFree_append {text : Text} (free : BraceFree text) (rest : Text) :
    ((text ++ rest).dropWhile fun c => !isBrace c) = rest.dropWhile fun c => !isBrace c :=
  List.dropWhile_append_of_pos fun c member => by simp [free c member]

namespace Piece

/-- The text that pieces cover together. -/
def sources (pieces : List Piece) : Text := pieces.flatMap source

@[simp]
theorem sources_nil : sources [] = [] := rfl

@[simp]
theorem sources_cons (piece : Piece) (pieces : List Piece) :
    sources (piece :: pieces) = piece.source ++ sources pieces := rfl

theorem sources_append (front back : List Piece) :
    sources (front ++ back) = sources front ++ sources back := List.flatMap_append

/-- Whether a piece is outside the format language in any case. -/
def isMalformed : Piece → Bool
  | unmatched => true
  | nested _ => true
  | unterminated _ => true
  | _ => false

/-- What is known of the characters inside a piece that was split off. -/
def Proper : Piece → Prop
  | run text => BraceFree text
  | doubled brace => isBrace brace = true
  | field body => BraceFree body
  | unmatched => True
  | nested inner => BraceFree inner
  | unterminated inner => '}' ∉ inner

/-- A piece of the format language: a run, a doubled brace, or a field with a brace-free body. -/
structure Complete (piece : Piece) : Prop where
  proper : piece.Proper
  notMalformed : piece.isMalformed = false

/-! ## Splitting off one piece -/

theorem split_doubled {brace : Char} (isBrace : isBrace brace = true) (rest : Text) :
    split (brace :: brace :: rest) = (doubled brace, rest) := by
  rcases (isBrace_eq_true_iff brace).mp isBrace with rfl | rfl <;> rfl

theorem split_field {body : Text} (free : BraceFree body) (rest : Text) :
    split ('{' :: (body ++ '}' :: rest)) = (field body, rest) := by
  have notDoubled : ∀ more, body ++ '}' :: rest ≠ '{' :: more := by
    intro more same
    cases body with
    | nil => cases same
    | cons c body =>
        have head : c = '{' := (List.cons.inj same).1
        have plain := free c List.mem_cons_self
        rw [head] at plain
        cases plain
  change splitOpened (body ++ '}' :: rest) = (field body, rest)
  unfold splitOpened
  split
  · next more same => exact absurd same (notDoubled more)
  · rw [takeWhile_braceFree_append free, dropWhile_braceFree_append free]
    simp [isBrace]

theorem split_of_not_brace {c : Char} (plain : isBrace c = false) (rest : Text) :
    split (c :: rest) =
      (run ((c :: rest).takeWhile fun c => !isBrace c), (c :: rest).dropWhile fun c => !isBrace c) := by
  unfold split
  split
  · next same => cases same; cases plain
  · next same => cases same; cases plain
  · rfl

/-- What begins with a brace is no run. -/
theorem split_ne_run {c : Char} (brace : isBrace c = true) (rest next : Text) :
    (split (c :: rest)).1 ≠ run next := by
  rcases (isBrace_eq_true_iff c).mp brace with rfl | rfl
  · change (splitOpened rest).1 ≠ run next
    unfold splitOpened
    split
    · exact nofun
    · split
      · exact nofun
      · split
        · exact nofun
        · exact nofun
  · change (splitClosed rest).1 ≠ run next
    unfold splitClosed
    split
    · exact nofun
    · exact nofun

theorem proper_split (text : Text) : (split text).1.Proper := by
  unfold split
  split
  · next inside =>
      unfold splitOpened
      split
      · rfl
      · split
        · exact braceFree_takeWhile inside
        · next notField =>
            split
            · exact braceFree_takeWhile inside
            · next noneLeft =>
                simp only [Proper]
                intro member
                rw [← List.takeWhile_append_dropWhile (p := fun c => !isBrace c) (l := inside)] at member
                rcases List.mem_append.mp member with before | after
                · cases braceFree_takeWhile inside _ before
                · simp [after] at noneLeft
  · unfold splitClosed
    split
    · rfl
    · trivial
  · exact braceFree_takeWhile text

/-! ## Cutting a whole text -/

/-- All the pieces of a text, in order. -/
def splitAll (text : Text) : List Piece :=
  if _nonempty : text = [] then []
  else (split text).1 :: splitAll (split text).2
termination_by text.length
decreasing_by exact length_split_lt _nonempty

@[simp]
theorem splitAll_nil : splitAll [] = [] := by
  rw [splitAll, dif_pos rfl]

theorem splitAll_of_ne_nil {text : Text} (nonempty : text ≠ []) :
    splitAll text = (split text).1 :: splitAll (split text).2 := by
  rw [splitAll, dif_neg nonempty]

/-- Cutting loses nothing. -/
theorem sources_splitAll (text : Text) : sources (splitAll text) = text := by
  fun_induction splitAll text with
  | case1 => rfl
  | case2 text _nonempty inductionHypothesis =>
      rw [sources_cons, inductionHypothesis, source_split]

theorem proper_of_mem_splitAll (text : Text) : ∀ piece ∈ splitAll text, piece.Proper := by
  fun_induction splitAll text with
  | case1 => simp
  | case2 text _nonempty inductionHypothesis =>
      intro piece member
      rcases List.mem_cons.mp member with same | later
      · exact same ▸ proper_split text
      · exact inductionHypothesis piece later

/-- Put a piece in front of others.  A run takes in a run that follows it, and an empty run
leaves nothing behind. -/
def prepend : Piece → List Piece → List Piece
  | run [], pieces => pieces
  | run text, run next :: pieces => run (text ++ next) :: pieces
  | piece, pieces => piece :: pieces

/-- A run that stops before a brace or at the end of the text is a piece of its own. -/
private theorem prepend_run_splitAll {text rest : Text} (nonempty : text ≠ [])
    (stops : (rest.takeWhile fun c => !isBrace c) = []) :
    (run text).prepend (splitAll rest) = run text :: splitAll rest := by
  cases text with
  | nil => exact absurd rfl nonempty
  | cons d text =>
      cases rest with
      | nil => rw [splitAll_nil]; rfl
      | cons c rest =>
          have brace : isBrace c = true := by
            cases plain : isBrace c with
            | true => rfl
            | false => simp [plain] at stops
          rw [splitAll_of_ne_nil (List.cons_ne_nil c rest)]
          cases head : (split (c :: rest)).1 with
          | run next => exact absurd head (split_ne_run brace rest next)
          | _ => rfl

/-- A run in front of a text becomes part of the first run of the text, if it begins with one. -/
theorem splitAll_braceFree_append {text : Text} (free : BraceFree text) (rest : Text) :
    splitAll (text ++ rest) = (run text).prepend (splitAll rest) := by
  cases text with
  | nil => rfl
  | cons c text =>
      have plain : isBrace c = false := free c List.mem_cons_self
      have whole : splitAll (c :: text ++ rest) =
          run (c :: text ++ rest.takeWhile fun c => !isBrace c) ::
            splitAll (rest.dropWhile fun c => !isBrace c) := by
        rw [splitAll_of_ne_nil (by simp), List.cons_append, split_of_not_brace plain, ← List.cons_append,
          takeWhile_braceFree_append free, dropWhile_braceFree_append free]
      rw [whole]
      cases rest with
      | nil => rw [prepend_run_splitAll (List.cons_ne_nil c text) rfl]; simp
      | cons d rest =>
          cases next : isBrace d with
          | true =>
              rw [prepend_run_splitAll (List.cons_ne_nil c text) (by simp [next])]
              simp [next]
          | false =>
              rw [splitAll_of_ne_nil (List.cons_ne_nil d rest), split_of_not_brace next]
              rfl

/-- A complete piece is found again, whatever follows it. -/
theorem splitAll_source_append {piece : Piece} (complete : piece.Complete) (rest : Text) :
    splitAll (piece.source ++ rest) = piece.prepend (splitAll rest) := by
  cases piece with
  | run text => exact splitAll_braceFree_append complete.proper rest
  | doubled brace =>
      change splitAll (brace :: brace :: rest) = doubled brace :: splitAll rest
      rw [splitAll_of_ne_nil (List.cons_ne_nil _ _), split_doubled complete.proper]
  | field body =>
      have closing : (field body).source ++ rest = '{' :: (body ++ '}' :: rest) := by
        simp [source]
      rw [closing, splitAll_of_ne_nil (List.cons_ne_nil _ _), split_field complete.proper]
      rfl
  | _ => cases complete.notMalformed

/-- The pieces of a text that begins with complete pieces. -/
theorem splitAll_sources_append {front : List Piece} (complete : ∀ piece ∈ front, piece.Complete)
    (rest : Text) :
    splitAll (sources front ++ rest) = front.foldr prepend (splitAll rest) := by
  induction front with
  | nil => rfl
  | cons piece front inductionHypothesis =>
      rw [sources_cons, List.append_assoc, splitAll_source_append (complete piece List.mem_cons_self),
        inductionHypothesis fun later member => complete later (List.mem_cons_of_mem piece member)]
      rfl

end Piece

/-! ## Reading piece by piece -/

namespace Format

/-- Read pieces that begin at an offset of a format string to merged items. -/
def readAll (mode : Mode) (format : Text) : Nat → List Piece → Reading (List Item)
  | _, [] => Reading.pure []
  | offset, piece :: rest =>
    (piece.read mode format offset).andThen fun item =>
      (readAll mode format (offset + piece.source.length) rest).map item.attach

theorem readFrom_map_merge (mode : Mode) (format : Text) (offset : Nat) (text : Text) :
    (readFrom mode format offset text).map Item.merge =
      readAll mode format offset (Piece.splitAll text) := by
  fun_induction Piece.splitAll text generalizing offset with
  | case1 =>
      rw [readFrom, dif_pos rfl]
      rfl
  | case2 text nonempty inductionHypothesis =>
      rw [readFrom, dif_neg nonempty, readAll, ← inductionHypothesis]
      simp only [Reading.map_andThen, Reading.map_map, Item.merge_cons]

/-- Parsing cuts the format string into pieces and reads them in order. -/
theorem parse_eq_readAll (mode : Mode) (format : Text) :
    parse mode format = readAll mode format 0 (Piece.splitAll format) :=
  readFrom_map_merge mode format 0 format

/-- Reading cannot tell whether a run was cut. -/
theorem readAll_prepend (mode : Mode) (format : Text) (offset : Nat) (piece : Piece)
    (pieces : List Piece) :
    readAll mode format offset (piece.prepend pieces) = readAll mode format offset (piece :: pieces) := by
  cases piece with
  | run text =>
      cases text with
      | nil =>
          simp only [Piece.prepend, readAll, Piece.read, Piece.source, Reading.pure_andThen,
            Item.attach_literal_nil, Reading.map_id, List.length_nil, Nat.add_zero]
      | cons c text =>
          cases pieces with
          | nil => rfl
          | cons next pieces =>
              cases next with
              | run next =>
                  simp only [Piece.prepend, readAll, Piece.read, Piece.source, Reading.pure_andThen,
                    Reading.map_map, Item.attach_literal_attach_literal, List.length_append, Nat.add_assoc]
              | _ => rfl
  | _ => rfl

/-- A text that begins with complete pieces is read as these pieces and what follows them. -/
theorem readAll_splitAll_append (mode : Mode) (format : Text) (offset : Nat) {front : List Piece}
    (complete : ∀ piece ∈ front, piece.Complete) (rest : Text) :
    readAll mode format offset (Piece.splitAll (Piece.sources front ++ rest)) =
      readAll mode format offset (front ++ Piece.splitAll rest) := by
  rw [Piece.splitAll_sources_append complete]
  clear complete
  induction front generalizing offset with
  | nil => rfl
  | cons piece front inductionHypothesis =>
      rw [List.foldr_cons, readAll_prepend, List.cons_append, readAll, readAll]
      simp only [inductionHypothesis]

/-- A format string may be parsed along any cut into complete pieces. -/
theorem parse_sources (mode : Mode) {pieces : List Piece} (complete : ∀ piece ∈ pieces, piece.Complete) :
    parse mode (Piece.sources pieces) = readAll mode (Piece.sources pieces) 0 pieces := by
  have read := readAll_splitAll_append mode (Piece.sources pieces) 0 complete []
  rw [List.append_nil, Piece.splitAll_nil, List.append_nil] at read
  rw [parse_eq_readAll, read]

end Format
end FieldText
