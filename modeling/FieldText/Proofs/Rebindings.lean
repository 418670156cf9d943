import FieldText.Proofs.Sessions
import Mathlib

/-!
Sessions that share their items.  A session can be given other arguments without parsing its format string
once more.  Its items were read from that format string in the mode of its settings, and as long as nobody
changes the settings, they are what parsing would yield again.  The measure is selected anew in either case.
So a session that is rebound, at whatever time and however often, is the session that would be opened then
with the same format string, settings and registry.
-/

namespace FieldText
namespace Workspace

variable {workspace later : Workspace} {format : Text} {values : List Value} {given : Option Settings}
  {number : Option Nat} {opened : OpenSession}

/-- A workspace in which nothing is half bound, and which remembers no wrong items. -/
structure IsAtRest (workspace : Workspace) : Prop where
  idle : workspace.busy = []
  sound : workspace.cache.IsSound

/-- A session that was opened with a format string, settings and a registry, and rebound any number of times.
Between these steps anything may have happened that comes to rest, except that the settings are still the
same, and so are the widths of characters.  In particular nothing is said about registries. -/
inductive IsRebound (format : Text) (settings : Settings) (number : Option Nat) :
    Workspace → OpenSession → Prop
  | opens {workspace : Workspace} {values : List Value} {given : Option Settings} {opened : OpenSession}
      (atRest : workspace.IsAtRest) (selected : workspace.settingsFor given = settings)
      (opens : Action.outcome (openSession format values given number none) workspace = .ok opened) :
      IsRebound format settings number
        (Action.after (openSession format values given number none) workspace) opened
  | passes {workspace later : Workspace} {opened : OpenSession}
      (rebound : IsRebound format settings number workspace opened) (atRest : later.IsAtRest)
      (unchanged : later.settingsOf opened.settings = workspace.settingsOf opened.settings)
      (sameCells : later.host.cells = workspace.host.cells) :
      IsRebound format settings number later opened
  | rebinds {workspace : Workspace} {values : List Value} {opened other : OpenSession}
      (rebound : IsRebound format settings number workspace opened)
      (rebinds : Action.outcome (withArguments opened values) workspace = .ok other) :
      IsRebound format settings number (Action.after (withArguments opened values) workspace) other

/-- What a session that was rebound has in common with every other one of the same format string, settings
and registry. -/
structure SharesParse (format : Text) (settings : Settings) (number : Option Nat) (workspace : Workspace)
    (opened : OpenSession) : Prop where
  atRest : workspace.IsAtRest
  registry : opened.registry = number
  selected : workspace.settingsOf opened.settings = settings
  parsed : (Format.parse (Mode.ofStrict settings.strict) format).result = .ok opened.session.parsed.items
  measure : workspace.measure? settings.measure = some opened.session.measure

/-! ## Steps -/

theorem settings_after_openWith (arguments : List Renderer) (workspace : Workspace) :
    (Action.after (openWith format arguments given number none) workspace).settings =
      workspace.settings ++ [workspace.settingsFor given] := by
  let added : Workspace := { workspace with settings := workspace.settings ++ [workspace.settingsFor given] }
  let mode := Mode.ofStrict (added.settingsOf workspace.settings.length).strict
  have stepped : Action.after (openWith format arguments given number none) workspace =
      Action.after (parse mode format >>= assemble format arguments number workspace.settings.length) added :=
    rfl
  have parses : Action.Preserves (fun later => later.settings = added.settings) (parse mode format) := by
    intro later same
    rw [after_parse]
    exact same
  rw [stepped]
  refine parses.bind (fun parsed later same => ?_) added rfl
  rw [after_assemble]
  exact same

theorem outcome_withArguments (idle : workspace.busy = []) (opened : OpenSession) (values : List Value) :
    Action.outcome (withArguments opened values) workspace =
      match boundArguments workspace opened.registry values with
      | .error fault => .error fault
      | .ok arguments =>
        match workspace.measure? (workspace.settingsOf opened.settings).measure with
        | none => .error .unknownMeasure
        | some measure =>
          .ok ⟨⟨opened.session.format, opened.session.parsed, measure, arguments⟩, opened.registry,
            opened.settings⟩ := by
  rw [withArguments, Action.outcome_bind, outcome_wrapAll idle]
  cases boundArguments workspace opened.registry values with
  | error fault => rfl
  | ok arguments => exact outcome_assemble _ _ _ _ _ _

theorem measure?_eq_of_cells_eq (sameCells : later.host.cells = workspace.host.cells) (word : Text) :
    later.measure? word = workspace.measure? word := by
  rw [measure?, measure?, sameCells]

/-- To rebind a session comes to the same as to bind the arguments, whether or not it succeeds. -/
theorem after_withArguments (opened : OpenSession) (values : List Value) (workspace : Workspace) :
    Action.after (withArguments opened values) workspace =
      Action.after (wrapAll opened.registry values) workspace := by
  rw [withArguments, Action.after_bind]
  split
  · exact after_assemble _ _ _ _ _ _
  · rfl

theorem IsAtRest.openSession (atRest : workspace.IsAtRest) (format : Text) (values : List Value)
    (given : Option Settings) (number : Option Nat) :
    (Action.after (openSession format values given number none) workspace).IsAtRest :=
  ⟨(keeps_openSession format values given number none workspace).busy.trans atRest.idle,
    preserves_isSound_openSession format values given number none workspace atRest.sound⟩

theorem IsAtRest.withArguments (atRest : workspace.IsAtRest) (opened : OpenSession) (values : List Value) :
    (Action.after (withArguments opened values) workspace).IsAtRest := by
  rw [after_withArguments]
  exact ⟨(keeps_wrapAll opened.registry values workspace).busy.trans atRest.idle, atRest.sound⟩

/-- Whatever is done with registries, a workspace that was at rest is at rest. -/
theorem IsAtRest.performAll (atRest : workspace.IsAtRest) (operations : List Operation) :
    (Operation.performAll operations workspace).IsAtRest := by
  rw [Operation.performAll_eq]
  exact ⟨atRest.idle, atRest.sound⟩

/-- A session that opens has the settings that were added for it. -/
theorem sharesParse_of_opens (atRest : workspace.IsAtRest)
    (opens : Action.outcome (openSession format values given number none) workspace = .ok opened) :
    SharesParse format (workspace.settingsFor given) number
      (Action.after (openSession format values given number none) workspace) opened := by
  obtain ⟨bound, parsed, measure⟩ := of_openSession_eq_ok atRest.idle atRest.sound opens
  have found : opened.registry = number ∧ opened.settings = workspace.settings.length := by
    rw [outcome_openSession atRest.idle, bound] at opens
    simp only [outcome_openWith] at opens
    split at opens
    · cases opens
    · split at opens
      · cases opens
      · have made := (Except.ok.inj opens).symm
        exact ⟨congrArg OpenSession.registry made, congrArg OpenSession.settings made⟩
  have added : (Action.after (openSession format values given number none) workspace).settings =
      workspace.settings ++ [workspace.settingsFor given] := by
    rw [openSession_eq, Action.after_bind, outcome_wrapAll atRest.idle, bound]
    exact settings_after_openWith _ _
  have sameCells : (Action.after (openSession format values given number none) workspace).host.cells =
      workspace.host.cells :=
    congrArg Host.cells (keeps_openSession format values given number none workspace).host
  refine ⟨atRest.openSession format values given number, found.1, ?_, parsed,
    (measure?_eq_of_cells_eq sameCells _).trans measure⟩
  rw [found.2, settingsOf_of_settings_append added]

theorem SharesParse.rebinds {settings : Settings} {other : OpenSession}
    (shares : SharesParse format settings number workspace opened)
    (rebinds : Action.outcome (withArguments opened values) workspace = .ok other) :
    SharesParse format settings number (Action.after (withArguments opened values) workspace) other := by
  have atRest := shares.atRest.withArguments opened values
  rw [outcome_withArguments shares.atRest.idle, shares.selected, shares.measure] at rebinds
  split at rebinds
  · cases rebinds
  · cases rebinds
    have sameCells : (Action.after (withArguments opened values) workspace).host.cells =
        workspace.host.cells := by
      rw [after_withArguments]
      exact congrArg Host.cells (keeps_wrapAll opened.registry values workspace).host
    refine ⟨atRest, shares.registry, ?_, shares.parsed,
      (measure?_eq_of_cells_eq sameCells _).trans shares.measure⟩
    rw [after_withArguments]
    exact shares.selected

/-- However a session came about, its items are those that parsing would yield, and its measure is the one
that would be selected. -/
theorem IsRebound.sharesParse {settings : Settings}
    (rebound : IsRebound format settings number workspace opened) :
    SharesParse format settings number workspace opened := by
  induction rebound with
  | opens atRest selected opens => exact selected ▸ sharesParse_of_opens atRest opens
  | passes _ atRest unchanged sameCells shares =>
      exact ⟨atRest, shares.registry, unchanged.trans shares.selected, shares.parsed,
        (measure?_eq_of_cells_eq sameCells _).trans shares.measure⟩
  | rebinds _ rebinds shares => exact shares.rebinds rebinds

/-- To rebind a session is to open it afresh.  At any time after it was opened, as long as its settings are
the same, the one fails if and only if the other fails, with the same fault, and otherwise both sessions
render alike, whatever the containers hold by then.  The session that is rebound renders as before. -/
theorem withArguments_eq_openSession {settings : Settings}
    (rebound : IsRebound format settings number workspace opened) (values : List Value) :
    (Action.outcome (withArguments opened values) workspace).map
        (fun other occupancy => other.session.render occupancy) =
      (Action.outcome (openSession format values (some (workspace.settingsOf opened.settings)) number none)
        workspace).map (fun other occupancy => other.session.render occupancy) ∧
    Action.outcome (renderSession opened) (Action.after (withArguments opened values) workspace) =
      Action.outcome (renderSession opened) workspace := by
  have shares := rebound.sharesParse
  constructor
  · have settingsAgain : workspace.settingsFor (some (workspace.settingsOf opened.settings)) = settings :=
      shares.selected
    rw [map_render_openSession shares.atRest.idle shares.atRest.sound (settingsAgain ▸ shares.parsed)
      (settingsAgain ▸ shares.measure), outcome_withArguments shares.atRest.idle, shares.registry,
      shares.selected, shares.measure]
    cases boundArguments workspace number values with
    | error fault => rfl
    | ok arguments => rfl
  · rw [after_withArguments]
    rfl

/-- A session of two fields, of which the second one is echoed for want of an argument. -/
def echoing : OpenSession :=
  let items : List Item := [.field "\x7b0\x7d".toList ⟨0, .unpadded, []⟩, .literal "|".toList,
    .field "\x7b1\x7d".toList ⟨1, .unpadded, []⟩]
  ⟨⟨"\x7b0\x7d|\x7b1\x7d".toList, ⟨0, items⟩, .chars, [.ruled .text (.scalar (.text ['a']))]⟩, none, 0⟩

theorem opens_echoing :
    Action.outcome (openSession "\x7b0\x7d|\x7b1\x7d".toList [.scalar .text (.text ['a'])] none none none)
      (initial .plain []) = .ok echoing := by
  cbv

/-- The session is given two arguments after the rule for integers has changed, and one more time when there
is no rule for texts any more. -/
theorem withArguments_eq_openSession_echoing :
    let format := "\x7b0\x7d|\x7b1\x7d".toList
    let settings : Settings := ⟨false, Measure.Kind.chars.name⟩
    let opening := openSession format [.scalar .text (.text ['a'])] none none none
    let changed := Operation.performAll [.register 0 .integer (.scalar .boolean)]
      (Action.after opening (initial .plain []))
    let bare := Operation.performAll [.unregister 0 .text] changed
    let values : List Value := [.scalar .text (.text ['b']), .scalar .integer (.integer 7)]
    let text := fun outcome : Except Fault OpenSession =>
      (outcome.map fun other occupancy => other.session.render occupancy).map fun render =>
        (render Heap.empty.occupancy).text
    IsRebound format settings none changed echoing ∧
      text (Action.outcome (withArguments echoing values) changed) = .ok "b|true".toList ∧
      (Action.outcome (renderSession echoing) (Action.after (withArguments echoing values) changed)).map
        Rendering.text = .ok "a|\x7b1\x7d".toList ∧
      IsRebound format settings none bare echoing ∧
      text (Action.outcome (withArguments echoing values) bare) = .error (.unsupportedType .text) := by
  intro format settings opening changed bare values text
  have atRest : (initial .plain []).IsAtRest := ⟨rfl, Format.Cache.isSound_empty⟩
  have opened : IsRebound format settings none (Action.after opening (initial .plain [])) echoing :=
    .opens atRest rfl opens_echoing
  have rebound : IsRebound format settings none changed echoing :=
    .passes opened (opened.sharesParse.atRest.performAll _) rfl rfl
  have reboundThere : IsRebound format settings none bare echoing :=
    .passes rebound (rebound.sharesParse.atRest.performAll _) rfl rfl
  obtain ⟨rebinds, renders⟩ := withArguments_eq_openSession rebound values
  obtain ⟨fails, -⟩ := withArguments_eq_openSession reboundThere values
  refine ⟨rebound, ?_, ?_, reboundThere, ?_⟩
  · refine (congrArg (Except.map fun render => (render Heap.empty.occupancy).text) rebinds).trans ?_
    simp only [changed, opening, format, values]
    cbv
  · rw [renders]
    rfl
  · refine (congrArg (Except.map fun render => (render Heap.empty.occupancy).text) fails).trans ?_
    simp only [bare, changed, opening, format, values]
    cbv

end Workspace
end FieldText
