import FieldText.CommandLine.Run
import FieldText.Proofs.Sessions
import Mathlib

/-!
What a console shows of a session.  The chunks of a rendering are printed one by one, and each is treated
by itself: control characters are dropped, and tabs become spaces up to tab stops that are counted from
where the line begins in this chunk.  Nothing that is shown contains such a character any more.  Hence a
console shows the text of a session if and only if the text has none of them, and then it does not matter
how the text was cut into chunks.  As long as there are no tabs, the cut does not matter either; only the
control characters are missing.  The command that renders prints a session in this way.
-/

namespace FieldText

/-! ## Pieces of output -/

namespace Terminal

variable {measure : Measure}

/-- A text without tabs and without characters that are dropped. -/
def IsPlain (text : Text) : Prop := ∀ c ∈ text, c ≠ '\t' ∧ isDropped c = false

instance (text : Text) : Decidable (IsPlain text) :=
  List.decidableBAll (fun c => c ≠ '\t' ∧ isDropped c = false) text

theorem mem_expandTabs {column : Nat} {text : Text} {c : Char} (member : c ∈ expandTabs measure column text) :
    c ≠ '\t' ∧ (c = ' ' ∨ c ∈ text) := by
  induction text generalizing column with
  | nil => cases member
  | cons first rest inductionHypothesis =>
      have later : ∀ column, c ∈ expandTabs measure column rest → c ≠ '\t' ∧ (c = ' ' ∨ c ∈ first :: rest) := by
        intro column member
        have behind := inductionHypothesis member
        exact ⟨behind.1, behind.2.imp_right (List.mem_cons_of_mem first)⟩
      unfold expandTabs at member
      split at member
      · next newline =>
          rcases List.mem_cons.mp member with rfl | member
          · exact ⟨by simp [newline], Or.inr List.mem_cons_self⟩
          · exact later _ member
      · split at member
        · rcases List.mem_append.mp member with space | member
          · rw [List.eq_of_mem_replicate space]
            exact ⟨by decide, Or.inl rfl⟩
          · exact later _ member
        · next notTab =>
            rcases List.mem_cons.mp member with rfl | member
            · exact ⟨notTab, Or.inr List.mem_cons_self⟩
            · exact later _ member

theorem isPlain_shown (piece : Text) : IsPlain (shown measure piece) := by
  intro c member
  rcases mem_expandTabs member with ⟨notTab, rfl | kept⟩
  · exact ⟨notTab, rfl⟩
  · exact ⟨notTab, by simpa using (List.mem_filter.mp kept).2⟩

theorem isPlain_shownAll (pieces : List Text) : IsPlain (shownAll measure pieces) := by
  intro c member
  rcases List.mem_flatMap.mp member with ⟨piece, _, member⟩
  exact isPlain_shown piece c member

theorem shown_of_no_tab {piece : Text} (noTab : '\t' ∉ piece) :
    shown measure piece = piece.filter fun c => !isDropped c := by
  apply expandTabs_eq_self measure
  rintro c kept rfl
  exact noTab (List.mem_of_mem_filter kept)

/-- Without tabs the cut does not matter: the characters that are shown are those that are not dropped. -/
theorem shownAll_of_no_tab {pieces : List Text} (noTab : '\t' ∉ pieces.flatten) :
    shownAll measure pieces = pieces.flatten.filter fun c => !isDropped c := by
  induction pieces with
  | nil => rfl
  | cons piece pieces inductionHypothesis =>
      rw [List.flatten_cons, List.mem_append, not_or] at noTab
      calc
        shownAll measure (piece :: pieces) = shown measure piece ++ shownAll measure pieces := rfl
        _ = (piece.filter fun c => !isDropped c) ++ pieces.flatten.filter fun c => !isDropped c := by
          rw [shown_of_no_tab noTab.1, inductionHypothesis noTab.2]
        _ = (piece :: pieces).flatten.filter fun c => !isDropped c := by
          rw [List.flatten_cons, List.filter_append]

/-- Pieces are shown as they are if and only if they are plain. -/
theorem shownAll_eq_flatten_iff (measure : Measure) (pieces : List Text) :
    shownAll measure pieces = pieces.flatten ↔ IsPlain pieces.flatten := by
  constructor
  · intro same
    exact same ▸ isPlain_shownAll pieces
  · intro plain
    have noTab : '\t' ∉ pieces.flatten := fun member => (plain '\t' member).1 rfl
    rw [shownAll_of_no_tab noTab, List.filter_eq_self]
    intro c member
    simp [(plain c member).2]

end Terminal

/-! ## The command that renders -/

theorem Workspace.Action.run_of_outcome {α : Type} {action : Action α} {workspace : Workspace}
    {result : Except Fault α} (yields : outcome action workspace = result) :
    action.run.run workspace = (result, after action workspace) :=
  Prod.ext yields rfl

namespace CommandLine

/-- A command line that asks for a format string to be rendered, with all that is settled before anything
is printed: the configuration, the words, the arguments and the session that opens with them. -/
structure RenderCommand (host : Host) (arguments : List Text) (environment : Environment)
    (readFile : Text → Option (List UInt8)) where
  invocation : Invocation
  config : Config
  words : Words
  format : Text
  texts : List Text
  scalars : List Scalar
  opened : OpenSession
  invoked : invocation? arguments = some invocation
  isRender : invocation.command = .render
  selected : selectConfig invocation.common environment readFile = .ok config
  sorted : sort renderRules true invocation.words = some words
  operands : words.operands = format :: texts
  coerced : Coercion.arguments (config.command.coerceArguments && !words.hasFlag "raw".toList) texts =
    .ok scalars
  opens : Workspace.Action.outcome
    (Workspace.openSession format (scalars.map fun scalar => Value.scalar scalar.type scalar)
      (some ⟨config.parsing.strict, config.render.measure.name⟩) none none)
    (Workspace.initial host environment) = .ok opened

namespace RenderCommand

variable {host : Host} {arguments : List Text} {environment : Environment}
  {readFile : Text → Option (List UInt8)}

/-- What is printed behind the text. -/
def ending (command : RenderCommand host arguments environment readFile) : Text :=
  if command.words.hasFlag "no_newline".toList then [] else ['\n']

/-- Which containers hold anything at the start of a run.  There are none. -/
def occupancy (_ : RenderCommand host arguments environment readFile) : Occupancy := Heap.empty.occupancy

theorem shown_ending (command : RenderCommand host arguments environment readFile) :
    Terminal.shown host.cells command.ending = command.ending := by
  unfold ending
  split <;> rfl

/-- The step that opens the session. -/
def opening (command : RenderCommand host arguments environment readFile) : Workspace.Action OpenSession :=
  Workspace.openSession command.format
    (command.scalars.map fun scalar => Value.scalar scalar.type scalar)
    (some ⟨command.config.parsing.strict, command.config.render.measure.name⟩) none none

/-- The notices of a run: those of opening the session, and those of rendering it. -/
def notices (command : RenderCommand host arguments environment readFile) : List Notice :=
  (Workspace.Action.after command.opening (Workspace.initial host environment)).notices ++
    (command.opened.session.render command.occupancy).notices

/-- A run of the command shows the chunks of the session and then the ending. -/
theorem run_eq (command : RenderCommand host arguments environment readFile) {text : Text}
    (writes : command.opened.session.text? command.occupancy = .ok text) :
    run host arguments environment readFile =
      Outcome.done
        (Terminal.shownAll host.cells (command.opened.session.render command.occupancy).chunks ++ command.ending)
        command.notices := by
  have ran := Workspace.Action.run_of_outcome command.opens
  -- The session is rendered with the containers that opening it left, and these are none.
  have heap : (Workspace.Action.after command.opening (Workspace.initial host environment)).heap = Heap.empty :=
    (Workspace.keeps_openSession _ _ _ _ _ _).heap
  have succeeds : (command.opened.session.render Heap.empty.occupancy).fault = none :=
    (Session.flatten_chunks writes).1
  unfold opening at heap
  simp only [run, command.invoked, command.selected, command.isRender, runCommand, command.sorted,
    runRender, command.operands, command.coerced, ran, heap, succeeds]
  rw [← ending, command.shown_ending]
  rfl

theorem output_run_eq_iff (command : RenderCommand host arguments environment readFile) {text : Text}
    (writes : command.opened.session.text? command.occupancy = .ok text) :
    (run host arguments environment readFile).output = text ++ command.ending ↔ Terminal.IsPlain text := by
  have chunks := (Session.flatten_chunks writes).2
  have shown := Terminal.shownAll_eq_flatten_iff host.cells
    (command.opened.session.render command.occupancy).chunks
  rw [chunks] at shown
  rw [command.run_eq writes, Outcome.done, List.append_left_inj, shown]

end RenderCommand

/-- A console shows the text of a session if and only if this text has no tab and no character that is
dropped.  Without a tab it shows what is left of the text without the dropped characters.  Neither depends
on how the text is cut.  Hence the command that renders ends well, with the chunks of its session and one
newline for its output, which is the text of the session and a newline if and only if that text is
plain. -/
theorem console_shows_session :
    (∀ (measure : Measure) (session : Session) (occupancy : Occupancy) (text : Text),
      session.text? occupancy = .ok text →
      (Terminal.shownAll measure (session.render occupancy).chunks = text ↔ Terminal.IsPlain text) ∧
      (∀ pieces : List Text, pieces.flatten = text →
        ((Terminal.shownAll measure pieces = text ↔ Terminal.IsPlain text) ∧
        ('\t' ∉ text →
          Terminal.shownAll measure pieces = text.filter fun c => !Terminal.isDropped c)))) ∧
    ∀ (host : Host) (arguments : List Text) (environment : Environment)
      (readFile : Text → Option (List UInt8)) (command : RenderCommand host arguments environment readFile)
      (text : Text),
      command.opened.session.text? command.occupancy = .ok text →
      run host arguments environment readFile =
          Outcome.done
            (Terminal.shownAll host.cells (command.opened.session.render command.occupancy).chunks ++
              command.ending)
            command.notices ∧
        ((run host arguments environment readFile).output = text ++ command.ending ↔ Terminal.IsPlain text) := by
  constructor
  · intro measure session occupancy text writes
    have cut : ∀ pieces : List Text, pieces.flatten = text →
        ((Terminal.shownAll measure pieces = text ↔ Terminal.IsPlain text) ∧
          ('\t' ∉ text → Terminal.shownAll measure pieces = text.filter fun c => !Terminal.isDropped c)) := by
      rintro pieces rfl
      exact ⟨Terminal.shownAll_eq_flatten_iff measure pieces, Terminal.shownAll_of_no_tab⟩
    exact ⟨(cut _ (Session.flatten_chunks writes).2).1, cut⟩
  · intro host arguments environment readFile command text writes
    exact ⟨command.run_eq writes, command.output_run_eq_iff writes⟩

/-- The words of a command line that renders a padded text and a boolean without a newline. -/
def paddedText : List Text :=
  ["render".toList, "-n".toList, "\x7b0,-4\x7d|\x7b1:Y\x7d".toList, "ab".toList, "true".toList]

/-- What that command line asks for. -/
def paddedTextCommand : RenderCommand .plain paddedText [] fun _ => none where
  invocation := ⟨⟨[], [], paddedText⟩, .render, paddedText.tail⟩
  config := Config.default
  words := ⟨["no_newline".toList], [], paddedText.drop 2⟩
  format := "\x7b0,-4\x7d|\x7b1:Y\x7d".toList
  texts := ["ab".toList, "true".toList]
  scalars := [.text "ab".toList, .boolean true]
  opened := ⟨⟨"\x7b0,-4\x7d|\x7b1:Y\x7d".toList,
    ⟨0, [.field "\x7b0,-4\x7d".toList ⟨0, ⟨.left, 4, ' '⟩, []⟩, .literal ['|'],
      .field "\x7b1:Y\x7d".toList ⟨1, Layout.unpadded, ['Y']⟩]⟩, .chars,
    [.ruled .text (.scalar (.text "ab".toList)), .ruled .boolean (.scalar (.boolean true))]⟩, none, 0⟩
  invoked := by cbv
  isRender := rfl
  selected := by cbv
  sorted := by cbv
  operands := by cbv
  coerced := by cbv
  opens := by cbv

theorem console_shows_session_paddedText :
    let session := paddedTextCommand.opened.session
    session.text? paddedTextCommand.occupancy = .ok "ab  |YES".toList ∧
      Terminal.IsPlain "ab  |YES".toList ∧
      Terminal.shownAll .chars (session.render paddedTextCommand.occupancy).chunks = "ab  |YES".toList ∧
      (run .plain paddedText [] fun _ => none).output = "ab  |YES".toList := by
  intro session
  have writes : session.text? paddedTextCommand.occupancy = .ok "ab  |YES".toList := by cbv
  have plain : Terminal.IsPlain "ab  |YES".toList := by decide
  rcases console_shows_session with ⟨shows, runs⟩
  exact ⟨writes, plain, (shows .chars session _ _ writes).1.mpr plain,
    (runs _ _ _ _ paddedTextCommand _ writes).2.mpr plain⟩

/-- A console does not show every text as it is: a tab becomes spaces, as many as it takes in its chunk. -/
theorem not_console_shows_tab :
    ¬ ∀ (measure : Measure) (session : Session) (occupancy : Occupancy) (text : Text),
      session.text? occupancy = .ok text →
        Terminal.shownAll measure (session.render occupancy).chunks = text := by
  intro shows
  let session : Session := ⟨"a\x7b0\x7d".toList,
    ⟨0, [.literal ['a'], .field "\x7b0\x7d".toList ⟨0, Layout.unpadded, []⟩]⟩, .chars,
    [.ruled .text (.scalar (.text ['\t']))]⟩
  have same := shows .chars session Heap.empty.occupancy ['a', '\t'] (by cbv)
  have tab : '\t' ∈ Terminal.shownAll .chars (session.render Heap.empty.occupancy).chunks := by simp [same]
  exact (Terminal.isPlain_shownAll _ '\t' tab).1 rfl

end CommandLine
end FieldText
