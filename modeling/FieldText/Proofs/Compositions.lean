import FieldText.Proofs.Sessions
import FieldText.Proofs.Strictness
import Mathlib

/-!
Parsing is compositional.  A format string that strict mode accepts leaves nothing undecided at its end:
its pieces are complete, so they are found again whatever follows them, although the last run may go on
into the text behind it.  What follows is read as if it stood alone, except that its malformed places lie
further back, in a longer format string.  The items on both sides of the seam are the items of the two
parts, with a literal on the one side and a literal on the other made one.  Since a literal is written as
it stands, the text of the whole is the text of the first part and the text of the second.
-/

namespace FieldText

/-! ## Malformed places behind a text -/

/-- The same malformed place when a text is put in front of the format string. -/
def Malformation.behind (front : Text) (malformation : Malformation) : Malformation :=
  ⟨malformation.kind, malformation.offset + front.length, front ++ malformation.source⟩

/-- Of all notices only that of a recovery tells where it comes from. -/
def Notice.behind (front : Text) : Notice → Notice
  | recovered malformation => recovered (malformation.behind front)
  | notice => notice

namespace Reading

variable {α β : Type} (front : Text)

/-- The same reading when a text is put in front of the format string. -/
def behind (reading : Reading α) : Reading α :=
  ⟨reading.notices.map (Notice.behind front), reading.result.mapError (Malformation.behind front)⟩

theorem behind_pure (value : α) : (pure value).behind front = pure value := rfl

theorem behind_andThen (first : Reading α) (next : α → Reading β) :
    (first.andThen next).behind front = (first.behind front).andThen fun value => (next value).behind front := by
  rcases first with ⟨notices, result⟩
  cases result with
  | error malformation => rfl
  | ok value => simp [behind, andThen, Except.mapError]

theorem behind_map (change : α → β) (reading : Reading α) :
    (reading.map change).behind front = (reading.behind front).map change := by
  simp only [map, behind_andThen, behind_pure]

theorem behind_report (mode : Mode) (malformation : Malformation) :
    (report mode malformation).behind front = report mode (malformation.behind front) := by
  cases mode <;> rfl

theorem andThen_congr {reading : Reading α} {next other : α → Reading β}
    (same : ∀ value, reading.result = .ok value → next value = other value) :
    reading.andThen next = reading.andThen other := by
  rcases reading with ⟨notices, result⟩
  cases result with
  | error malformation => rfl
  | ok value => simp only [andThen, same value rfl]

end Reading

namespace Body

variable (front : Text)

theorem behind_readIndex (source digits : Text) :
    (readIndex source digits).behind front = readIndex source digits := by
  unfold readIndex
  split
  · rfl
  · rfl

theorem behind_readLayout (mode : Mode) (unreadable : Malformation) (part : Option Text) :
    (readLayout mode unreadable part).behind front = readLayout mode (unreadable.behind front) part := by
  cases value : layoutValue part with
  | none =>
      rw [readLayout_of_unreadable _ _ value, readLayout_of_unreadable _ _ value, Reading.behind_map,
        Reading.behind_report]
  | some layout =>
      rw [readLayout_of_readable _ _ value, readLayout_of_readable _ _ value, Reading.behind_pure]

theorem behind_read (mode : Mode) (place : Malformation.Kind → Malformation) (source body : Text) :
    (read mode place source body).behind front =
      read mode (fun kind => (place kind).behind front) source body := by
  cases numeral : Numeral.isNumeral (Text.trim (cut body).index) with
  | false =>
      rw [read_of_not_numeral _ _ _ numeral, read_of_not_numeral _ _ _ numeral, Reading.behind_map,
        Reading.behind_report]
  | true =>
      rw [read_of_numeral _ _ _ numeral, read_of_numeral _ _ _ numeral, Reading.behind_andThen,
        behind_readIndex]
      simp only [Reading.behind_map, behind_readLayout]

end Body

namespace Piece

theorem behind_read (front : Text) (mode : Mode) (format : Text) (offset : Nat) (piece : Piece) :
    (piece.read mode format offset).behind front =
      piece.read mode (front ++ format) (front.length + offset) := by
  have place : ∀ kind, Malformation.behind front ⟨kind, offset, format⟩ =
      ⟨kind, (front.length + offset : Nat), front ++ format⟩ := by
    intro kind
    simp [Malformation.behind, Int.add_comm]
  cases piece with
  | run text => rfl
  | doubled brace => rfl
  | field body =>
      rw [read, read, Body.behind_read]
      simp only [place]
  | _ => simp only [read, Reading.behind_map, Reading.behind_report, place]

/-- A piece that spells an item is read alike wherever it stands. -/
theorem Spells.read_eq {piece : Piece} {item : Item} (spells : piece.Spells item) (mode : Mode)
    (format other : Text) (offset otherOffset : Nat) :
    piece.read mode format offset = piece.read mode other otherOffset := by
  cases spells with
  | run free => rfl
  | doubled isBrace => rfl
  | @field body asked free spells =>
      have means := (Body.spells_iff body asked).mp spells
      rw [read, read, Body.read_of_numeral _ _ _ means.numeral, Body.read_of_numeral _ _ _ means.numeral]
      simp only [Body.readLayout_of_readable _ _ means.layout]

end Piece

namespace Format

theorem behind_readAll (front : Text) (mode : Mode) (format : Text) (offset : Nat) (pieces : List Piece) :
    (readAll mode format offset pieces).behind front =
      readAll mode (front ++ format) (front.length + offset) pieces := by
  induction pieces generalizing offset with
  | nil => rfl
  | cons piece pieces inductionHypothesis =>
      rw [readAll, readAll, Reading.behind_andThen, Piece.behind_read]
      simp only [Reading.behind_map, inductionHypothesis, Nat.add_assoc]

end Format

/-! ## Joining items -/

namespace Item

/-- Items followed by others, with a literal at the seam merged with a literal that follows it. -/
def join (front back : List Item) : List Item :=
  match front.getLast?, back with
  | some (literal text), literal next :: rest => front.dropLast ++ literal (text ++ next) :: rest
  | _, _ => front ++ back

theorem join_cons_cons (item next : Item) (front back : List Item) :
    join (item :: next :: front) back = item :: join (next :: front) back := by
  unfold join
  rw [List.getLast?_cons_cons, List.dropLast_cons_cons]
  split
  · rfl
  · rfl

/-- Attaching items one by one does not depend on whether they were attached to each other before. -/
theorem foldr_attach_attach (item : Item) (front back : List Item) :
    (item.attach front).foldr attach back = item.attach (front.foldr attach back) := by
  cases item with
  | literal text =>
      cases text with
      | nil => rfl
      | cons c text =>
          cases front with
          | nil => rfl
          | cons head front =>
              cases head with
              | literal next =>
                  rw [List.foldr_cons, attach_literal_attach_literal]
                  rfl
              | _ => rfl
  | _ => rfl

theorem head?_foldr_attach {item : Item} (notLiteral : item.isLiteral = false) (front back : List Item) :
    ((item :: front).foldr attach back).head? = some item := by
  cases item with
  | literal text => cases notLiteral
  | _ => rfl

/-- Where the front is in merged form, items are attached at the seam only. -/
theorem foldr_attach_eq_join {front : List Item} (merged : IsMerged front) (back : List Item) :
    front.foldr attach back = join front back := by
  induction front with
  | nil => rfl
  | cons item front inductionHypothesis =>
      have notEmpty : item ≠ literal [] := fun same => merged.noEmptyLiteral (same ▸ List.mem_cons_self)
      cases front with
      | nil =>
          cases item with
          | literal text =>
              cases text with
              | nil => exact absurd rfl notEmpty
              | cons c text =>
                  cases back with
                  | nil => rfl
                  | cons head back => cases head <;> rfl
          | _ => rfl
      | cons next front =>
          rw [join_cons_cons, ← inductionHypothesis merged.tail, List.foldr_cons]
          -- What was attached behind cannot begin with a literal where this item is one.
          apply attach_eq_cons notEmpty
          intro text isLiteral head
          have apart := (List.isChain_cons.mp merged.literalsApart).1 next rfl
          have nextNotLiteral : next.isLiteral = false := by
            simpa [isLiteral] using apart
          rw [head?_foldr_attach nextNotLiteral] at head
          obtain rfl : next = literal text := Option.some.inj head
          cases nextNotLiteral

/-- Joining items joins what is made of them, when a literal is made of its parts. -/
theorem flatMap_join {α : Type} {make : Item → List α}
    (parts : ∀ first second, make (literal (first ++ second)) = make (literal first) ++ make (literal second))
    (front back : List Item) : (join front back).flatMap make = front.flatMap make ++ back.flatMap make := by
  unfold join
  split
  · next text next rest last =>
      have whole : front.dropLast ++ [literal text] = front := List.dropLast_append_getLast? _ last
      conv => rhs; rw [← whole]
      simp [parts]
  · exact List.flatMap_append

theorem mem_join {item : Item} {front back : List Item} (member : item ∈ join front back) :
    item ∈ front ∨ item ∈ back ∨ item.isLiteral = true := by
  unfold join at member
  split at member
  · rcases List.mem_append.mp member with inFront | inBack
    · exact Or.inl (List.dropLast_subset _ inFront)
    · rcases List.mem_cons.mp inBack with rfl | later
      · exact Or.inr (Or.inr rfl)
      · exact Or.inr (Or.inl (List.mem_cons_of_mem _ later))
  · exact (List.mem_append.mp member).imp_right Or.inl

end Item

/-! ## Parsing one format string behind another -/

namespace Format

/-- Pieces that spell items are read wherever they stand, and then what follows them is read. -/
theorem readAll_append {pieces : List Piece} {spelled : List Item}
    (spells : List.Forall₂ Piece.Spells pieces spelled) (mode : Mode) (format other : Text)
    (offset otherOffset : Nat) (rest : List Piece) :
    readAll mode format offset (pieces ++ rest) =
      (readAll mode other otherOffset pieces).andThen fun first =>
        (readAll mode format (offset + (Piece.sources pieces).length) rest).map
          fun second => first.foldr Item.attach second := by
  -- The front is read twice, in the whole and by itself, and the two offsets drift apart.
  induction spells generalizing offset otherOffset with
  | nil => simp [readAll]
  | @cons piece item pieces spelled first _ inductionHypothesis =>
      rw [List.cons_append, readAll, readAll, Reading.andThen_assoc,
        first.read_eq mode format other offset otherOffset]
      congr 1
      funext item
      rw [inductionHypothesis _ (otherOffset + piece.source.length), Reading.map_andThen,
        Reading.andThen_map]
      simp only [Reading.map_map, Item.foldr_attach_attach, Piece.sources_cons, List.length_append,
        Nat.add_assoc]

theorem result_parse_of_strict {format : Text} {items : List Item}
    (accepted : (parse .strict format).result = .ok items) (mode : Mode) :
    (parse mode format).result = .ok items := by
  cases mode with
  | strict => exact accepted
  | recovering =>
      rw [parse_strict, Reading.result_stopped_eq_ok_iff] at accepted
      exact accepted.2

/-- A format string that is one field is read as what its body spells, in both modes. -/
theorem result_parse_field {body : Text} {asked : Field} (free : BraceFree body)
    (spells : Body.Spells body asked) (mode : Mode) :
    (parse mode ('{' :: body ++ ['}'])).result = .ok [.field ('{' :: body ++ ['}']) asked] := by
  have derives : Derives ('{' :: body ++ ['}']) [.field body] [.field ('{' :: body ++ ['}']) asked] :=
    ⟨by simp [Piece.source], .cons (.field free spells) .nil⟩
  exact result_parse_of_strict (result_parse_strict_of_derives derives) mode

theorem isMerged_of_result_parse {mode : Mode} {format : Text} {items : List Item}
    (read : (parse mode format).result = .ok items) : Item.IsMerged items := by
  have readRecovering : (parse .recovering format).result = .ok items := by
    cases mode with
    | recovering => exact read
    | strict => exact result_parse_of_strict read .recovering
  rcases readAll_recovering_covers format 0 (Piece.proper_of_mem_splitAll format) with
    ⟨merged, _, readAll, _, _, isMerged, _⟩
  rw [← parse_eq_readAll, readRecovering] at readAll
  obtain rfl : items = merged := Except.ok.inj readAll
  exact isMerged

/-- A format string behind one that strict mode accepts is read as if it stood alone, further back. -/
theorem parse_append {front : Text} (accepted : ∃ first, (parse .strict front).result = .ok first)
    (mode : Mode) (back : Text) :
    parse mode (front ++ back) =
      (parse mode front).andThen fun first => ((parse mode back).behind front).map (Item.join first) := by
  rcases accepted with ⟨first, accepted⟩
  rcases derives_of_result_parse_strict accepted with ⟨spelled, derives, _⟩
  have cut := readAll_splitAll_append mode (front ++ back) 0 derives.complete back
  rw [derives.whole] at cut
  rw [parse_eq_readAll, cut, readAll_append derives.spelled mode _ front 0 0, derives.whole,
    ← parse_eq_readAll]
  apply Reading.andThen_congr
  intro first read
  rw [parse_eq_readAll mode back, behind_readAll, Nat.zero_add, Nat.add_zero]
  congr 1
  funext second
  exact Item.foldr_attach_eq_join (isMerged_of_result_parse read) second

theorem result_parse_append {front : Text} {first : List Item}
    (accepted : (parse .strict front).result = .ok first) (mode : Mode) (back : Text) :
    (parse mode (front ++ back)).result =
      ((parse mode back).result.mapError (Malformation.behind front)).map (Item.join first) := by
  rw [parse_append ⟨first, accepted⟩, Reading.result_andThen (result_parse_of_strict accepted mode),
    Reading.result_map]
  rfl

end Format

/-! ## The text of one format string behind another -/

namespace Session

/-- A session whose items are those of two others joined, with the same arguments and measure, has the
texts of both. -/
theorem text?_of_join {first second whole : Session} {occupancy : Occupancy} {firstText secondText : Text}
    (firstWrites : first.text? occupancy = .ok firstText)
    (secondWrites : second.text? occupancy = .ok secondText)
    (items : whole.parsed.items = Item.join first.parsed.items second.parsed.items)
    (arguments : first.arguments = whole.arguments ∧ second.arguments = whole.arguments)
    (measure : first.measure = whole.measure ∧ second.measure = whole.measure) :
    whole.text? occupancy = .ok (firstText ++ secondText) := by
  rw [text?_eq_ok_iff, arguments.1, measure.1] at firstWrites
  rw [text?_eq_ok_iff, arguments.2, measure.2] at secondWrites
  rw [text?_eq_ok_iff, items]
  constructor
  · intro item member
    rcases Item.mem_join member with inFirst | inSecond | isLiteral
    · exact firstWrites.1 item inFirst
    · exact secondWrites.1 item inSecond
    · cases item with
      | literal text => rfl
      | _ => cases isLiteral
  · rw [Item.flatMap_join (fun _ _ => rfl), firstWrites.2, secondWrites.2]

end Session

namespace Workspace

/-- Format strings compose.  Behind a format string that strict mode accepts, any other is read as if it
stood alone: the items of the whole are those of the parts, joined, and strict mode ends where it ends in
the part behind, which is further back now.  Hence the text of the whole, for the same arguments and
settings, is the text of the one part and then that of the other. -/
theorem openSession_append {front : Text} {first : List Item}
    (accepted : (Format.parse .strict front).result = .ok first) (back : Text) :
    (Format.parse .recovering front).result = .ok first ∧
    (∃ second, (Format.parse .recovering back).result = .ok second ∧
      (Format.parse .recovering (front ++ back)).result = .ok (Item.join first second)) ∧
    (∀ whole, (Format.parse .strict (front ++ back)).result = .ok whole ↔
      ∃ second, (Format.parse .strict back).result = .ok second ∧ whole = Item.join first second) ∧
    (∀ malformation, (Format.parse .strict (front ++ back)).result = .error malformation ↔
      ∃ inBack, (Format.parse .strict back).result = .error inBack ∧
        malformation = ⟨inBack.kind, inBack.offset + front.length, front ++ inBack.source⟩) ∧
    ∀ (workspace : Workspace), workspace.busy = [] → workspace.cache.IsSound →
      ∀ (values : List Value) (given : Option Settings) (number : Option Nat) (occupancy : Occupancy)
        (firstOpened secondOpened : OpenSession) (firstText secondText : Text),
        Action.outcome (openSession front values given number none) workspace = .ok firstOpened →
        firstOpened.session.text? occupancy = .ok firstText →
        Action.outcome (openSession back values given number none) workspace = .ok secondOpened →
        secondOpened.session.text? occupancy = .ok secondText →
        ∃ opened, Action.outcome (openSession (front ++ back) values given number none) workspace =
            .ok opened ∧ opened.session.text? occupancy = .ok (firstText ++ secondText) := by
  refine ⟨Format.result_parse_of_strict accepted .recovering, ?_, ?_, ?_, ?_⟩
  · rcases Format.readAll_recovering_covers back 0 (Piece.proper_of_mem_splitAll back) with
      ⟨second, _, read, _⟩
    rw [← Format.parse_eq_readAll] at read
    refine ⟨second, read, ?_⟩
    rw [Format.result_parse_append accepted, read]
    rfl
  · intro whole
    rw [Format.result_parse_append accepted]
    cases (Format.parse .strict back).result with
    | error malformation => simp [Except.map, Except.mapError]
    | ok second => simp [Except.map, Except.mapError, eq_comm]
  · intro malformation
    rw [Format.result_parse_append accepted]
    cases (Format.parse .strict back).result with
    | error inBack => simp [Except.map, Except.mapError, Malformation.behind, eq_comm]
    | ok second => simp [Except.map, Except.mapError]
  · intro workspace idle sound values given number occupancy firstOpened secondOpened firstText secondText
      firstOpens firstWrites secondOpens secondWrites
    rcases of_openSession_eq_ok idle sound firstOpens with ⟨firstBound, firstRead, firstMeasure⟩
    rcases of_openSession_eq_ok idle sound secondOpens with ⟨secondBound, secondRead, secondMeasure⟩
    rw [Format.result_parse_of_strict accepted] at firstRead
    have wholeRead := Format.result_parse_append accepted
      (Mode.ofStrict (workspace.settingsFor given).strict) back
    rw [secondRead] at wholeRead
    rcases (openSession_opens_iff idle sound _ _ _).mpr ⟨firstBound, wholeRead, firstMeasure⟩ with
      ⟨opened, opens, arguments, items, measure⟩
    refine ⟨opened, opens, Session.text?_of_join firstWrites secondWrites ?_ ⟨?_, ?_⟩ ⟨?_, ?_⟩⟩
    · rw [items, Except.ok.inj firstRead]
    · exact arguments.symm
    · rw [arguments]
      exact Except.ok.inj (secondBound.symm.trans firstBound)
    · exact measure.symm
    · rw [measure]
      exact Option.some.inj (secondMeasure.symm.trans firstMeasure)

/-- A format string that ends in two closing braces behind those of a field, and one that begins with
two closing braces and ends in an opening one. -/
def seamFront : Text := "a\x7b\x7b\x7b0,+4\x7d\x7d\x7d".toList

@[inherit_doc seamFront]
def seamBack : Text := "\x7d\x7db\x7b".toList

theorem openSession_append_bracesAtSeam :
    let values : List Value := [.scalar .text (.text ['x'])]
    let workspace := initial .plain []
    (∃ first, (Format.parse .strict seamFront).result = .ok first) ∧
    (Format.parse .strict seamBack).result = .error ⟨.unterminatedField, 3, seamBack⟩ ∧
    (Format.parse .strict (seamFront ++ seamBack)).result =
      .error ⟨.unterminatedField, 14, seamFront ++ seamBack⟩ ∧
    ∃ opened, Action.outcome (openSession (seamFront ++ seamBack) values none none none) workspace =
        .ok opened ∧
      opened.session.text? workspace.heap.occupancy = .ok "a\x7b   x\x7d\x7db\x7b".toList := by
  intro values workspace
  let field : Field := ⟨0, ⟨.right, 4, ' '⟩, []⟩
  let first : List Item := [.literal ['a', '{'], .field "\x7b0,+4\x7d".toList field, .literal ['}']]
  let second : List Item := [.literal "\x7db\x7b".toList]
  let arguments : List Renderer := [.ruled .text (.scalar (.text ['x']))]
  have accepted : (Format.parse .strict seamFront).result = .ok first := by cbv
  have malformed : (Format.parse .strict seamBack).result = .error ⟨.unterminatedField, 3, seamBack⟩ := by
    cbv
  rcases openSession_append accepted seamBack with ⟨_, _, _, ends, writes⟩
  refine ⟨⟨first, accepted⟩, malformed, (ends _).mpr ⟨_, malformed, rfl⟩, ?_⟩
  exact writes workspace rfl Format.Cache.isSound_empty values none none workspace.heap.occupancy
    ⟨⟨seamFront, ⟨0, first⟩, .chars, arguments⟩, none, 0⟩
    ⟨⟨seamBack, ⟨0, second⟩, .chars, arguments⟩, none, 0⟩
    "a\x7b   x\x7d".toList "\x7db\x7b".toList (by cbv) (by cbv) (by cbv) (by cbv)

end Workspace
end FieldText
