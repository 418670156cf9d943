import FieldText.Text.Basic

/-!
The pieces of a format string.  A piece is a run without braces, a doubled brace, a field, or one of
three malformed pieces: a closing brace that nothing opens, an opening brace that is followed by
another opening brace before it is closed, and an opening brace that is never closed.  Splitting
loses nothing: the sources of the pieces are the text, in order, and every split takes at least one
character.
-/

namespace FieldText

def isBrace (c : Char) : Bool := c = '{' || c = '}'

/-- One piece of a format string. -/
inductive Piece where
  | run (text : Text)
  | doubled (brace : Char)
  | field (body : Text)
  | unmatched
  /-- An opening brace and the text up to the next opening brace. -/
  | nested (inner : Text)
  /-- An opening brace and all the text that is left. -/
  | unterminated (inner : Text)
  deriving DecidableEq, Repr

namespace Piece

/-- The characters of the format string that a piece covers. -/
def source : Piece → Text
  | run text => text
  | doubled brace => [brace, brace]
  | field body => '{' :: body ++ ['}']
  | unmatched => ['}']
  | nested inner => '{' :: inner
  | unterminated inner => '{' :: inner

/-- Split the piece that begins with an opening brace, given what follows the brace. -/
def splitOpened (inside : Text) : Piece × Text :=
  match inside with
  | '{' :: rest => (doubled '{', rest)
  | _ =>
    let inner := inside.takeWhile (fun c => !isBrace c)
    match inside.dropWhile (fun c => !isBrace c) with
    | '}' :: rest => (field inner, rest)
    | rest => if rest.contains '}' then (nested inner, rest) else (unterminated inside, [])

/-- Split the piece that begins with a closing brace, given what follows the brace. -/
def splitClosed (rest : Text) : Piece × Text :=
  match rest with
  | '}' :: rest => (doubled '}', rest)
  | _ => (unmatched, rest)

/-- Split the first piece off a text.  At the end of the text that is an empty run. -/
def split (text : Text) : Piece × Text :=
  match text with
  | '{' :: inside => splitOpened inside
  | '}' :: rest => splitClosed rest
  | _ => (run (text.takeWhile (fun c => !isBrace c)), text.dropWhile (fun c => !isBrace c))

/-! ## Nothing is lost -/

theorem source_splitOpened (inside : Text) :
    (splitOpened inside).1.source ++ (splitOpened inside).2 = '{' :: inside := by
  have kept : inside.takeWhile (fun c => !isBrace c) ++ inside.dropWhile (fun c => !isBrace c) =
      inside := List.takeWhile_append_dropWhile
  unfold splitOpened
  split
  · rfl
  · split
    · next rest closing =>
        rw [closing] at kept
        simp only [source, List.cons_append, List.append_assoc, List.nil_append, kept]
    · split
      · simp only [source, List.cons_append, kept]
      · simp only [source, List.append_nil]

theorem source_split (text : Text) : (split text).1.source ++ (split text).2 = text := by
  unfold split
  split
  · exact source_splitOpened _
  · unfold splitClosed
    split <;> rfl
  · exact List.takeWhile_append_dropWhile

theorem source_split_ne_nil {text : Text} (nonempty : text ≠ []) :
    (split text).1.source ≠ [] := by
  cases text with
  | nil => exact absurd rfl nonempty
  | cons c rest =>
      unfold split
      split
      · unfold splitOpened
        split
        · simp [source]
        · split
          · simp [source]
          · split <;> simp [source]
      · unfold splitClosed
        split <;> simp [source]
      · next notOpening notClosing =>
          have plain : isBrace c = false := by
            simp only [isBrace, Bool.or_eq_false_iff, decide_eq_false_iff_not]
            exact ⟨fun same => notOpening rest (by rw [same]),
              fun same => notClosing rest (by rw [same])⟩
          simp [source, plain]

/-- What is left after a split is shorter, which is why splitting a text into pieces ends. -/
theorem length_split_lt {text : Text} (nonempty : text ≠ []) :
    (split text).2.length < text.length := by
  have taken : 0 < (split text).1.source.length :=
    List.length_pos_iff.mpr (source_split_ne_nil nonempty)
  have total := congrArg List.length (source_split text)
  rw [List.length_append] at total
  omega

end Piece
end FieldText
