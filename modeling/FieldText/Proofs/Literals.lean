import FieldText.Proofs.Compositions

/-!
Format strings without fields.  All that happens to the text of such a format string is that doubled
braces become single ones, also where there are braces that nothing matches or that are opened twice.
The one exception is a brace that is opened and never closed.  The rest of the format string belongs to
it and is left as it is, doubled braces included.
-/

namespace FieldText

/-! ## Removing doubled braces -/

namespace Text

/-- From left to right, every doubled brace is replaced by one brace. -/
def collapse : Text → Text
  | [] => []
  | [c] => [c]
  | c :: next :: rest =>
    if isBrace c = true ∧ next = c then c :: collapse rest else c :: collapse (next :: rest)

/-- From left to right, every doubled brace is replaced by one brace, up to an opening brace that is not
doubled and behind which no closing brace occurs. -/
def unescape : Text → Text
  | [] => []
  | [c] => [c]
  | c :: next :: rest =>
    if isBrace c = true ∧ next = c then c :: unescape rest
    else if c = '{' ∧ '}' ∉ next :: rest then c :: next :: rest
    else c :: unescape (next :: rest)

variable {c brace : Char} {text rest : Text}

theorem collapse_doubled (isBrace : isBrace brace = true) (rest : Text) :
    collapse (brace :: brace :: rest) = brace :: collapse rest := by
  rw [collapse, if_pos ⟨isBrace, rfl⟩]

theorem unescape_doubled (isBrace : isBrace brace = true) (rest : Text) :
    unescape (brace :: brace :: rest) = brace :: unescape rest := by
  rw [unescape, if_pos ⟨isBrace, rfl⟩]

theorem not_doubled {next : Char} (apart : isBrace c = true → (next :: rest).head? ≠ some c) :
    ¬(isBrace c = true ∧ next = c) :=
  fun doubled => apart doubled.1 (congrArg some doubled.2)

theorem head?_ne_some (notCons : ∀ rest, text ≠ c :: rest) : text.head? ≠ some c := by
  intro head
  rcases List.head?_eq_some_iff.mp head with ⟨rest, same⟩
  exact notCons rest same

theorem collapse_cons (apart : isBrace c = true → rest.head? ≠ some c) :
    collapse (c :: rest) = c :: collapse rest := by
  cases rest with
  | nil => rfl
  | cons next rest =>
      rw [collapse, if_neg (not_doubled apart)]

theorem unescape_cons (apart : isBrace c = true → rest.head? ≠ some c)
    (closed : c = '{' → '}' ∈ rest) : unescape (c :: rest) = c :: unescape rest := by
  cases rest with
  | nil => rfl
  | cons next rest =>
      have notLast : ¬(c = '{' ∧ '}' ∉ next :: rest) := fun last => last.2 (closed last.1)
      rw [unescape, if_neg (not_doubled apart), if_neg notLast]

theorem unescape_unclosed (apart : rest.head? ≠ some '{') (unclosed : '}' ∉ rest) :
    unescape ('{' :: rest) = '{' :: rest := by
  cases rest with
  | nil => rfl
  | cons next rest =>
      rw [unescape, if_neg (not_doubled fun _ => apart), if_pos ⟨rfl, unclosed⟩]

theorem collapse_braceFree_append (free : BraceFree text) (rest : Text) :
    collapse (text ++ rest) = text ++ collapse rest := by
  induction text with
  | nil => rfl
  | cons c text inductionHypothesis =>
      rcases (braceFree_cons_iff c text).mp free with ⟨plain, freeRest⟩
      rw [List.cons_append, collapse_cons (by simp [plain]), inductionHypothesis freeRest,
        List.cons_append]

theorem unescape_braceFree_append (free : BraceFree text) (rest : Text) :
    unescape (text ++ rest) = text ++ unescape rest := by
  induction text with
  | nil => rfl
  | cons c text inductionHypothesis =>
      rcases (braceFree_cons_iff c text).mp free with ⟨plain, freeRest⟩
      have notOpening : c ≠ '{' := by
        rintro rfl
        cases plain
      rw [List.cons_append, unescape_cons (by simp [plain]) (by simp [notOpening]),
        inductionHypothesis freeRest, List.cons_append]

end Text

/-! ## The literal text of a piece -/

namespace Piece

/-- Whether a piece is a field. -/
def isField : Piece → Bool
  | field _ => true
  | _ => false

/-- Whether a piece is an opening brace that is never closed, with the rest of the text. -/
def isUnterminated : Piece → Bool
  | unterminated _ => true
  | _ => false

/-- What becomes of the characters of a piece that is no field. -/
def literalText : Piece → Text
  | doubled brace => [brace]
  | piece => piece.source

/-- What an opening brace begins: a doubled brace, a field, or one of two malformed pieces, which are told
apart by whether there is a closing brace behind them. -/
theorem splitOpened_cases (inside : Text) :
    (∃ rest, inside = '{' :: rest ∧ splitOpened inside = (doubled '{', rest)) ∨
    (∃ body rest, splitOpened inside = (field body, rest)) ∨
    inside.head? ≠ some '{' ∧
      ((∃ inner rest, BraceFree inner ∧ '}' ∈ rest ∧ inside = inner ++ rest ∧
          splitOpened inside = (nested inner, rest)) ∨
        '}' ∉ inside ∧ splitOpened inside = (unterminated inside, [])) := by
  have whole := List.takeWhile_append_dropWhile (p := fun c => !isBrace c) (l := inside)
  have free := braceFree_takeWhile inside
  unfold splitOpened
  split
  · next rest => exact Or.inl ⟨rest, rfl, rfl⟩
  · next notDoubled =>
      have apart : inside.head? ≠ some '{' := Text.head?_ne_some notDoubled
      split
      · next rest closing => exact Or.inr (Or.inl ⟨_, rest, rfl⟩)
      · refine Or.inr (Or.inr ⟨apart, ?_⟩)
        split
        · next closed =>
            exact Or.inl ⟨_, _, free, by simpa using closed, whole.symm, rfl⟩
        · next unclosed =>
            refine Or.inr ⟨fun member => ?_, rfl⟩
            rw [← whole] at member
            rcases List.mem_append.mp member with before | after
            · cases free _ before
            · exact unclosed (by simpa using after)

/-- A piece is at the front of a text, and what both ways of removing doubled braces make of the text is
its literal text and what they make of the rest.  Collapsing does not stop at an unterminated field. -/
structure LeadsTo (piece : Piece) (text rest : Text) : Prop where
  unescape : text.unescape = piece.literalText ++ rest.unescape
  collapse : piece.isUnterminated = false → text.collapse = piece.literalText ++ rest.collapse

theorem leadsTo_run {run : Text} (free : BraceFree run) (rest : Text) :
    LeadsTo (.run run) (run ++ rest) rest :=
  ⟨Text.unescape_braceFree_append free rest, fun _ => Text.collapse_braceFree_append free rest⟩

theorem leadsTo_doubled {brace : Char} (isBrace : isBrace brace = true) (rest : Text) :
    LeadsTo (doubled brace) (brace :: brace :: rest) rest :=
  ⟨Text.unescape_doubled isBrace rest, fun _ => Text.collapse_doubled isBrace rest⟩

theorem leadsTo_unmatched {rest : Text} (apart : rest.head? ≠ some '}') :
    LeadsTo unmatched ('}' :: rest) rest :=
  ⟨Text.unescape_cons (fun _ => apart) nofun, fun _ => Text.collapse_cons fun _ => apart⟩

theorem leadsTo_nested {inner rest : Text} (free : BraceFree inner) (closed : '}' ∈ rest)
    (apart : (inner ++ rest).head? ≠ some '{') :
    LeadsTo (nested inner) ('{' :: (inner ++ rest)) rest := by
  constructor
  · rw [Text.unescape_cons (fun _ => apart) fun _ => List.mem_append_right inner closed,
      Text.unescape_braceFree_append free]
    rfl
  · intro _
    rw [Text.collapse_cons fun _ => apart, Text.collapse_braceFree_append free]
    rfl

theorem leadsTo_unterminated {inside : Text} (apart : inside.head? ≠ some '{') (unclosed : '}' ∉ inside) :
    LeadsTo (unterminated inside) ('{' :: inside) [] := by
  refine ⟨?_, nofun⟩
  rw [Text.unescape_unclosed apart unclosed]
  exact (List.append_nil _).symm

theorem leadsTo_split {text : Text} (notField : (split text).1.isField = false) :
    LeadsTo (split text).1 text (split text).2 := by
  cases text with
  | nil => exact leadsTo_run (List.forall_mem_nil _) []
  | cons c rest =>
      cases brace : isBrace c with
      | false =>
          have leads := leadsTo_run (braceFree_takeWhile (c :: rest))
            ((c :: rest).dropWhile fun c => !isBrace c)
          rw [List.takeWhile_append_dropWhile] at leads
          rw [split_of_not_brace brace]
          exact leads
      | true =>
          rcases (isBrace_eq_true_iff c).mp brace with rfl | rfl
          · have opened : split ('{' :: rest) = splitOpened rest := rfl
            rw [opened] at notField ⊢
            rcases splitOpened_cases rest with ⟨rest, rfl, found⟩ | ⟨body, rest, found⟩ | ⟨apart, malformed⟩
            · rw [found]
              exact leadsTo_doubled brace rest
            · rw [found] at notField
              cases notField
            · rcases malformed with ⟨inner, rest, free, closed, rfl, found⟩ | ⟨unclosed, found⟩
              · rw [found]
                exact leadsTo_nested free closed apart
              · rw [found]
                exact leadsTo_unterminated apart unclosed
          · have closed : split ('}' :: rest) = splitClosed rest := rfl
            rw [closed]
            unfold splitClosed
            split
            · next rest => exact leadsTo_doubled brace rest
            · next notDoubled =>
                exact leadsTo_unmatched (Text.head?_ne_some notDoubled)

/-- A text whose pieces are no fields is unescaped to their literal texts.  If none of them is
unterminated, it is collapsed to them. -/
theorem literalText_splitAll {text : Text} (noField : ∀ piece ∈ splitAll text, piece.isField = false) :
    text.unescape = (splitAll text).flatMap literalText ∧
      ((∀ piece ∈ splitAll text, piece.isUnterminated = false) →
        text.collapse = (splitAll text).flatMap literalText) := by
  fun_induction splitAll text with
  | case1 => exact ⟨rfl, fun _ => rfl⟩
  | case2 text nonempty inductionHypothesis =>
      rw [List.forall_mem_cons] at noField
      rcases inductionHypothesis noField.2 with ⟨unescapes, collapses⟩
      have leads := leadsTo_split noField.1
      rw [List.flatMap_cons, List.forall_mem_cons]
      constructor
      · rw [leads.unescape, unescapes]
      · rintro ⟨terminated, terminatedRest⟩
        rw [leads.collapse terminated, collapses terminatedRest]

end Piece

/-! ## Reading literals only -/

namespace Item

/-- Attaching adds the source of the item, and makes no literal of anything else. -/
theorem attach_literals (item : Item) (items : List Item) :
    (item.attach items).flatMap source = item.source ++ items.flatMap source ∧
      ((∀ attached ∈ item.attach items, attached.isLiteral = true) ↔
        item.isLiteral = true ∧ ∀ other ∈ items, other.isLiteral = true) := by
  cases item with
  | literal text =>
      cases text with
      | nil => simp [attach, source, isLiteral]
      | cons c text =>
          cases items with
          | nil => simp [attach, source, isLiteral]
          | cons head items => cases head <;> simp [attach, source, isLiteral]
  | _ => simp [attach, source, isLiteral]

end Item

namespace Piece

/-- Recovering mode reads a literal from every piece but a field, and none from a field. -/
theorem read_recovering_isLiteral {piece : Piece} {format : Text} {offset : Nat} {item : Item}
    (read : (piece.read .recovering format offset).result = .ok item) (isLiteral : item.isLiteral = true) :
    piece.isField = false ∧ item.source = piece.literalText := by
  cases piece with
  | field body =>
      rw [Piece.read, Body.result_read_recovering] at read
      split at read
      · cases read
        cases isLiteral
      · cases read
        cases isLiteral
  | _ =>
      cases read
      exact ⟨rfl, rfl⟩

theorem mem_notices_of_isUnterminated {piece : Piece} (unterminated : piece.isUnterminated = true)
    (format : Text) (offset : Nat) :
    .recovered ⟨.unterminatedField, offset, format⟩ ∈ (piece.read .recovering format offset).notices := by
  cases piece with
  | unterminated inner => exact List.mem_cons_self
  | _ => cases unterminated

end Piece

namespace Format

/-- Where only literals are read, no piece is a field, and the literals are the literal texts of the
pieces. -/
theorem readAll_recovering_literals {format : Text} {offset : Nat} {pieces : List Piece}
    {items : List Item} (read : (readAll .recovering format offset pieces).result = .ok items)
    (literals : ∀ item ∈ items, item.isLiteral = true) :
    (∀ piece ∈ pieces, piece.isField = false) ∧
      items.flatMap Item.source = pieces.flatMap Piece.literalText := by
  induction pieces generalizing offset items with
  | nil =>
      cases read
      exact ⟨nofun, rfl⟩
  | cons piece pieces inductionHypothesis =>
      rw [readAll, Reading.result_andThen_eq_ok_iff] at read
      rcases read with ⟨item, readPiece, readLater⟩
      rcases (Reading.result_map_eq_ok_iff _ _ _).mp readLater with ⟨rest, readRest, rfl⟩
      have attached := item.attach_literals rest
      rcases attached.2.mp literals with ⟨isLiteral, literalsRest⟩
      rcases Piece.read_recovering_isLiteral readPiece isLiteral with ⟨notField, source⟩
      rcases inductionHypothesis readRest literalsRest with ⟨notFieldRest, sources⟩
      exact ⟨List.forall_mem_cons.mpr ⟨notField, notFieldRest⟩, by
        rw [attached.1, List.flatMap_cons, source, sources]⟩

theorem mem_notices_readAll {format : Text} (offset : Nat) {pieces : List Piece}
    (proper : ∀ piece ∈ pieces, piece.Proper) {piece : Piece} (member : piece ∈ pieces)
    (unterminated : piece.isUnterminated = true) :
    ∃ place, .recovered ⟨.unterminatedField, place, format⟩ ∈
      (readAll .recovering format offset pieces).notices := by
  induction pieces generalizing offset with
  | nil => cases member
  | cons first pieces inductionHypothesis =>
      rw [List.forall_mem_cons] at proper
      rcases Piece.read_recovering_covers proper.1 format offset with ⟨item, read, _⟩
      have notices : (readAll .recovering format offset (first :: pieces)).notices =
          (first.read .recovering format offset).notices ++
            (readAll .recovering format (offset + first.source.length) pieces).notices := by
        rw [readAll, Reading.notices_andThen read, Reading.notices_map]
      rw [notices]
      rcases List.mem_cons.mp member with rfl | later
      · exact ⟨offset, List.mem_append_left _ (Piece.mem_notices_of_isUnterminated unterminated _ _)⟩
      · rcases inductionHypothesis (offset + first.source.length) proper.2 later with ⟨place, reported⟩
        exact ⟨place, List.mem_append_right _ reported⟩

/-- Where only literals are read, they make up the unescaped format string.  If no field is reported to be
unterminated, that is the collapsed format string. -/
theorem parse_literals {format : Text} {items : List Item}
    (read : (parse .recovering format).result = .ok items)
    (literals : ∀ item ∈ items, item.isLiteral = true) :
    items.flatMap Item.source = format.unescape ∧
      ((∀ place, .recovered ⟨.unterminatedField, place, format⟩ ∉ (parse .recovering format).notices) →
        format.unescape = format.collapse) := by
  rw [parse_eq_readAll] at read ⊢
  rcases readAll_recovering_literals read literals with ⟨noField, sources⟩
  rcases Piece.literalText_splitAll noField with ⟨unescapes, collapses⟩
  refine ⟨sources.trans unescapes.symm, fun terminated => ?_⟩
  rw [unescapes, collapses]
  intro piece member
  cases unterminated : piece.isUnterminated with
  | false => rfl
  | true =>
      rcases mem_notices_readAll 0 (Piece.proper_of_mem_splitAll format) member unterminated with
        ⟨place, reported⟩
      exact absurd reported (terminated place)

end Format

/-! ## The text of a session without fields -/

namespace Session

theorem text?_of_literals {session : Session}
    (literals : ∀ item ∈ session.parsed.items, item.isLiteral = true) (occupancy : Occupancy) :
    session.text? occupancy = .ok (session.parsed.items.flatMap Item.source) := by
  rw [text?_eq_ok_iff]
  constructor
  · intro item member
    cases item with
    | literal text => rfl
    | _ => cases literals _ member
  · apply List.flatMap_congr
    intro item member
    cases item with
    | literal text => rfl
    | _ => cases literals _ member

end Session

namespace Workspace

/-- A format string from which recovering mode reads neither fields nor what could have been fields is
only unescaped.  A session with it opens whenever its arguments can be bound, unless strict mode or the
measure is in the way, and it has the unescaped format string for its text, whatever its arguments are. -/
theorem openSession_unescapes {format : Text} {items : List Item}
    (read : (Format.parse .recovering format).result = .ok items)
    (literals : ∀ item ∈ items, item.isLiteral = true) {workspace : Workspace}
    (idle : workspace.busy = []) (sound : workspace.cache.IsSound) (values : List Value)
    (given : Option Settings) (number : Option Nat) :
    ((workspace.settingsFor given).strict = false →
      ((∃ opened, Action.outcome (openSession format values given number none) workspace = .ok opened) ↔
        (∃ arguments, boundArguments workspace number values = .ok arguments) ∧
          ∃ measure, workspace.measure? (workspace.settingsFor given).measure = some measure)) ∧
    (∀ opened, Action.outcome (openSession format values given number none) workspace = .ok opened →
      ∀ occupancy, opened.session.text? occupancy = .ok format.unescape) ∧
    ((∀ place, .recovered ⟨.unterminatedField, place, format⟩ ∉
        (Format.parse .recovering format).notices) → format.unescape = format.collapse) := by
  have parsed := Format.parse_literals read literals
  refine ⟨fun lenient => ?_, fun opened opens occupancy => ?_, parsed.2⟩
  · have mode : Mode.ofStrict (workspace.settingsFor given).strict = .recovering := by
      rw [lenient]
      rfl
    constructor
    · rintro ⟨opened, opens⟩
      rcases of_openSession_eq_ok idle sound opens with ⟨bound, _, measure⟩
      exact ⟨⟨_, bound⟩, _, measure⟩
    · rintro ⟨⟨arguments, bound⟩, measure, named⟩
      rcases (openSession_opens_iff idle sound arguments items measure).mpr
        ⟨bound, mode ▸ read, named⟩ with ⟨opened, opens, _⟩
      exact ⟨opened, opens⟩
  · have readOpened : (Format.parse .recovering format).result = .ok opened.session.parsed.items := by
      have readMode := (of_openSession_eq_ok idle sound opens).2.1
      cases mode : Mode.ofStrict (workspace.settingsFor given).strict with
      | recovering => exact mode ▸ readMode
      | strict => exact Format.result_parse_of_strict (mode ▸ readMode) .recovering
    obtain rfl : items = opened.session.parsed.items := Except.ok.inj (read.symm.trans readOpened)
    rw [Session.text?_of_literals literals, parsed.1]

/-- A closing brace that nothing opens, a brace that is opened twice, doubled braces, and a brace that is
never closed with doubled braces behind it. -/
def mixedBraces : Text := "a\x7d\x7bb\x7b\x7bc\x7d\x7d\x7bd\x7b\x7be".toList

theorem openSession_unescapes_mixedBraces :
    let workspace := initial .plain []
    let values : List Value := [.scalar .text (.text ['x']), .scalar .integer (.integer 5)]
    let text : Text := "a\x7d\x7bb\x7bc\x7d\x7bd\x7b\x7be".toList
    (Format.parse .recovering mixedBraces).result = .ok [.literal text] ∧
      ∃ opened, Action.outcome (openSession mixedBraces values none none none) workspace = .ok opened ∧
        opened.session.text? workspace.heap.occupancy = .ok text := by
  intro workspace values text
  have read : (Format.parse .recovering mixedBraces).result = .ok [.literal text] := by cbv
  have literals : ∀ item ∈ [Item.literal text], item.isLiteral = true := by decide
  have bound : boundArguments workspace none values =
      .ok [.ruled .text (.scalar (.text ['x'])), .ruled .integer (.scalar (.integer 5))] := by cbv
  have sound : workspace.cache.IsSound := Format.Cache.isSound_empty
  have idle : workspace.busy = [] := rfl
  rcases openSession_unescapes read literals idle sound values none none with ⟨opens, unescapes, _⟩
  rcases (opens rfl).mpr ⟨⟨_, bound⟩, .chars, rfl⟩ with ⟨opened, outcome⟩
  refine ⟨read, opened, outcome, ?_⟩
  rw [unescapes opened outcome]
  decide

/-- Not every format string without fields is collapsed: doubled braces behind a brace that is never closed
stay as they are. -/
theorem not_collapses_unterminated :
    ¬ ∀ (format : Text) (items : List Item), (Format.parse .recovering format).result = .ok items →
      (∀ item ∈ items, item.isLiteral = true) →
      ∀ (values : List Value) (opened : OpenSession) (text : Text),
        Action.outcome (openSession format values none none none) (initial .plain []) = .ok opened →
        opened.session.text? (initial .plain []).heap.occupancy = .ok text → text = format.collapse := by
  intro collapses
  let format : Text := "\x7ba\x7b\x7b".toList
  let opened : OpenSession := ⟨⟨format, ⟨0, [.literal format]⟩, .chars, []⟩, none, 0⟩
  have same := collapses format [.literal format] (by cbv) (by decide) [] opened format (by cbv) (by cbv)
  exact absurd same (by decide)

end Workspace
end FieldText
