import FieldText.Proofs.Permanence
import FieldText.Proofs.Widths

/-!
What is in the sink when a rendering breaks off.  Some levels of a nested value stream their parts, and what
was streamed before the fault stays in the sink; others render aside, and of what they had so far nothing is
seen.  The relation `Renderer.BreaksOff` follows a fault from the place where it comes up to the outside,
and says for each level what is written by then.  Every fault comes up in such a place, unless a text was to
be repeated beyond the limits.
-/

namespace FieldText

/-! ## Renderings that end in a fault -/

namespace Rendering

/-- A rendering that ends in a fault with a text in the sink. -/
structure EndsIn (rendering : Rendering) (fault : Fault) (written : Text) : Prop where
  fault : rendering.fault = some fault
  text : rendering.text = written

variable {first second item : Rendering} {fault : Fault} {front written : Text}

/-- What would come after a fault makes no difference. -/
theorem EndsIn.andThen (ends : first.EndsIn fault written) (second : Rendering) :
    (first.andThen second).EndsIn fault written := by
  rcases first with ⟨chunks, notices, none | own⟩
  · cases ends.fault
  · exact ⟨ends.fault, ends.text⟩

/-- What was written before stays in the sink. -/
theorem EndsIn.after (ends : second.EndsIn fault written) (succeeds : first.fault = none)
    (writes : first.Writes front) : (first.andThen second).EndsIn fault (front ++ written) where
  fault := by rw [andThen_fault, succeeds, Option.none_or, ends.fault]
  text := by rw [text_andThen succeeds, writes succeeds, ends.text]

/-- Of what is rendered aside nothing reaches the sink. -/
theorem EndsIn.collect (ends : item.EndsIn fault written) (next : Text → Rendering) :
    (item.collect next).EndsIn fault [] := by
  rcases item with ⟨chunks, notices, none | own⟩
  · cases ends.fault
  · exact ⟨ends.fault, rfl⟩

section Parts

variable {α : Type} {effect : α → Rendering} {textOf : α → Text} {before : List α} {failing : α}

theorem endsIn_sequence (writes : ∀ part, (effect part).Writes (textOf part))
    (earlier : ∀ part ∈ before, (effect part).fault = none) (ends : (effect failing).EndsIn fault written)
    (after : List α) :
    (sequence ((before ++ failing :: after).map effect)).EndsIn fault (before.flatMap textOf ++ written) := by
  induction before with
  | nil => exact ends.andThen _
  | cons first rest inductionHypothesis =>
      rw [List.forall_mem_cons] at earlier
      rw [List.flatMap_cons, List.append_assoc]
      exact (inductionHypothesis earlier.2).after earlier.1 (writes first)

/-- The separator behind an element is written as soon as the element is complete. -/
theorem endsIn_joinEffects (writes : ∀ part, (effect part).Writes (textOf part))
    (earlier : ∀ part ∈ before, (effect part).fault = none) (ends : (effect failing).EndsIn fault written)
    (separator : Text) (after : List α) :
    (Renderer.joinEffects separator ((before ++ failing :: after).map effect)).EndsIn fault
      (before.flatMap (fun part => textOf part ++ separator) ++ written) := by
  induction before with
  | nil =>
      cases after with
      | nil => exact ends
      | cons next after => exact ends.andThen _
  | cons first rest inductionHypothesis =>
      rw [List.forall_mem_cons] at earlier
      have unfolds : Renderer.joinEffects separator ((first :: rest ++ failing :: after).map effect) =
          (effect first).andThen ((write separator).andThen
            (Renderer.joinEffects separator ((rest ++ failing :: after).map effect))) := by
        cases rest <;> rfl
      rw [unfolds, List.flatMap_cons, List.append_assoc, List.append_assoc]
      exact ((inductionHypothesis earlier.2).after rfl (writes_write separator)).after earlier.1 (writes first)

end Parts

end Rendering

open Rendering

/-! ## Layouts around a fault -/

namespace Repetition

variable {item : Rendering} {fault : Fault} {written : Text}

/-- With a width the item is rendered aside, without one it is streamed. -/
theorem endsIn_align (ends : item.EndsIn fault written) (alignment : Alignment) (amount : Int) (pad : Text)
    (measure : Measure) :
    (align alignment amount pad measure item).EndsIn fault (if amount = 0 then written else []) := by
  unfold align
  split
  · exact ends
  · exact ends.collect _

theorem endsIn_surround (ends : item.EndsIn fault written) {left : Int}
    (padded : (fill left [' ']).fault = none) (right : Int) :
    (surround left right item).EndsIn fault (Text.repeated left.toNat [' '] ++ written) :=
  (ends.andThen _).after padded (writes_fill left [' '])

theorem endsIn_repeated (ends : item.EndsIn fault written) {count : Int} (positive : 0 < count) :
    (repeated count item).EndsIn fault [] := by
  rw [repeated, if_neg (Int.not_le.mpr positive)]
  exact ends.collect _

/-- The faults that a layout can end in: that of its item, and overruns. -/
def CanFailWith (item : Rendering) (fault : Fault) : Prop := item.fault = some fault ∨ fault.IsOverrun

theorem failsOnly_canFailWith (item : Rendering) : item.FailsOnly (CanFailWith item) := fun _ => Or.inl

theorem fault_of_align {alignment : Alignment} {amount : Int} {pad : Text} {measure : Measure}
    (fails : (align alignment amount pad measure item).fault = some fault) (notOverrun : ¬ fault.IsOverrun) :
    item.fault = some fault := by
  have canFail := failsOnly_align (fun _ => Or.inr) (failsOnly_canFailWith item) alignment amount pad measure
  exact (canFail fault fails).resolve_right notOverrun

theorem fault_of_surround {left right : Int} (fails : (surround left right item).fault = some fault)
    (notOverrun : ¬ fault.IsOverrun) : (fill left [' ']).fault = none ∧ item.fault = some fault := by
  have canFail := failsOnly_surround (fun _ => Or.inr) (failsOnly_canFailWith item) left right
  refine ⟨?_, (canFail fault fails).resolve_right notOverrun⟩
  cases padded : (fill left [' ']).fault with
  | none => rfl
  | some own =>
      -- The spaces in front come first, and they can fail in an overrun only.
      rw [surround, andThen_fault, padded, Option.some_or] at fails
      cases fails
      exact absurd (failsOnly_fill (fun _ => id) left [' '] fault padded) notOverrun

theorem fault_of_repeated {count : Int} (fails : (repeated count item).fault = some fault)
    (notOverrun : ¬ fault.IsOverrun) : 0 < count ∧ item.fault = some fault := by
  have canFail := failsOnly_repeated (fun _ => Or.inr) (failsOnly_canFailWith item) count
  refine ⟨?_, (canFail fault fails).resolve_right notOverrun⟩
  by_contra notPositive
  rw [repeated, if_pos (Int.not_lt.mp notPositive)] at fails
  cases fails

end Repetition

/-! ## Faults inside a renderer -/

namespace Renderer

variable {occupancy : Occupancy}

/-- A renderer that is given options breaks off in a fault, with a text written by then.  The fault comes up
in a rule for scalars, in a renderer of which nothing is known but its effect, or in the bare adapter, and
everything that is rendered before it is complete.  A level that streams leaves what came before together
with what the failing part has left; a level that renders aside leaves nothing. -/
inductive BreaksOff (occupancy : Occupancy) : Renderer → Text → Fault → Text → Prop where
  | ruled {kind : ScalarKind} {subject : Subject} {options : Text} {fault : Fault}
      (fails : (kind.render occupancy subject options).fault = some fault) :
      BreaksOff occupancy (.ruled kind subject) options fault []
  | custom {effect : Occupancy → Text → Rendering} {options : Text} {fault : Fault}
      (fails : (effect occupancy options).fault = some fault) :
      BreaksOff occupancy (.custom effect) options fault (effect occupancy options).text
  | unlaid (item : Renderer) (options : Text) :
      BreaksOff occupancy (.unlaid item) options .abstractAdapter []
  | sequence {before : List Renderer} {failing : Renderer} (after : List Renderer) {options : Text}
      {fault : Fault} {written : Text}
      (earlier : ∀ element ∈ before,
        (render occupancy element (RangeOptions.read options).1.element).fault = none)
      (breaksOff : BreaksOff occupancy failing (RangeOptions.read options).1.element fault written) :
      BreaksOff occupancy (.sequence (before ++ failing :: after)) options fault
        (before.flatMap (fun element => text occupancy element (RangeOptions.read options).1.element ++
          (RangeOptions.read options).1.separator) ++ written)
  | aligned {item : Renderer} {options : Text} {fault : Fault} {written : Text}
      (breaksOff : BreaksOff occupancy item options fault written) (alignment : Alignment) (amount : Int)
      (pad : Text) (measure : Measure) :
      BreaksOff occupancy (.aligned item alignment amount pad measure) options fault
        (if amount = 0 then written else [])
  | padded {item : Renderer} {options : Text} {fault : Fault} {written : Text}
      (breaksOff : BreaksOff occupancy item options fault written) {left : Int}
      (padded : (Repetition.fill left [' ']).fault = none) (right : Int) :
      BreaksOff occupancy (.padded item left right) options fault
        (Text.repeated left.toNat [' '] ++ written)
  | repeated {item : Renderer} {options : Text} {fault : Fault} {written : Text}
      (breaksOff : BreaksOff occupancy item options fault written) {count : Int} (positive : 0 < count) :
      BreaksOff occupancy (.repeated item count) options fault []
  | session {before : List Item} (source : Text) {asked : Field} (after : List Item) {measure : Measure}
      {arguments : List Renderer} {argument : Renderer} (options : Text) {fault : Fault} {written : Text}
      (earlier : ∀ item ∈ before, (itemEffect measure (renderAll occupancy arguments) item).fault = none)
      (found : arguments[asked.index]? = some argument)
      (breaksOff : BreaksOff occupancy argument asked.options fault written) :
      BreaksOff occupancy (.session (before ++ .field source asked :: after) measure arguments) options fault
        (before.flatMap (Item.text measure (textAll occupancy arguments)) ++
          if asked.layout.width = 0 then written else [])

/-- A renderer that breaks off leaves the fault as it came up, and the text that belongs to it. -/
theorem BreaksOff.endsIn {renderer : Renderer} {options : Text} {fault : Fault} {written : Text}
    (breaksOff : renderer.BreaksOff occupancy options fault written) :
    (render occupancy renderer options).EndsIn fault written := by
  -- The induction goes from the place where the fault comes up to the outside, one level at a time.
  induction breaksOff with
  | ruled fails => exact ⟨fails, (ScalarKind.writesAtOnce_render _ _ _ _).text_eq_nil fails⟩
  | custom fails => exact ⟨fails, rfl⟩
  | unlaid item options => exact ⟨rfl, rfl⟩
  | @sequence before failing after options fault written earlier _ inductionHypothesis =>
      rw [render_sequence]
      have ends := endsIn_joinEffects (writes_render occupancy · (RangeOptions.read options).1.element)
        earlier inductionHypothesis (RangeOptions.read options).1.separator after
      exact ends.after rfl (writes_noteAll _)
  | aligned _ alignment amount pad measure inductionHypothesis =>
      exact Repetition.endsIn_align inductionHypothesis alignment amount pad measure
  | padded _ padded right inductionHypothesis =>
      exact Repetition.endsIn_surround inductionHypothesis padded right
  | repeated _ positive inductionHypothesis =>
      exact Repetition.endsIn_repeated inductionHypothesis positive
  | @session before source asked after measure arguments argument options fault written earlier found _
      inductionHypothesis =>
      rw [render]
      -- The field itself is laid out by its width, which decides whether anything of the argument is left.
      have writes : ∀ item, (itemEffect measure (renderAll occupancy arguments) item).Writes
          (Item.text measure (textAll occupancy arguments) item) :=
        writes_itemEffect (fun argument _ => writes_render occupancy argument) measure
      refine endsIn_sequence writes earlier ?_ after
      have ends := Repetition.endsIn_align inductionHypothesis asked.layout.alignment asked.layout.width
        [asked.layout.pad] measure
      rw [← itemEffect_field found source] at ends
      simpa using ends

/-- Every fault but an overrun comes up in a rule, in a renderer of which nothing is known, or in the bare
adapter. -/
theorem exists_breaksOff {renderer : Renderer} {options : Text} {fault : Fault}
    (fails : (render occupancy renderer options).fault = some fault) (notOverrun : ¬ fault.IsOverrun) :
    ∃ written, renderer.BreaksOff occupancy options fault written := by
  induction renderer using Renderer.induction generalizing options with
  | ruled kind subject => exact ⟨_, .ruled fails⟩
  | custom effect => exact ⟨_, .custom fails⟩
  | placeholder text => cases fails
  | sequence elements inductionHypothesis =>
      rw [render_sequence, andThen_fault, fault_joinEffects, List.findSome?_map] at fails
      rcases List.findSome?_eq_some_iff.mp fails with ⟨before, failing, after, rfl, failsInside, earlier⟩
      rcases inductionHypothesis failing (by simp) failsInside with ⟨written, breaksOff⟩
      exact ⟨_, .sequence after earlier breaksOff⟩
  | aligned item alignment amount pad measure inductionHypothesis =>
      rcases inductionHypothesis (Repetition.fault_of_align fails notOverrun) with ⟨written, breaksOff⟩
      exact ⟨_, .aligned breaksOff alignment amount pad measure⟩
  | padded item left right inductionHypothesis =>
      rcases Repetition.fault_of_surround fails notOverrun with ⟨padded, failsInside⟩
      rcases inductionHypothesis failsInside with ⟨written, breaksOff⟩
      exact ⟨_, .padded breaksOff padded right⟩
  | repeated item count inductionHypothesis =>
      rcases Repetition.fault_of_repeated fails notOverrun with ⟨positive, failsInside⟩
      rcases inductionHypothesis failsInside with ⟨written, breaksOff⟩
      exact ⟨_, .repeated breaksOff positive⟩
  | unlaid item _ =>
      cases fails
      exact ⟨_, .unlaid item options⟩
  | session items measure arguments inductionHypothesis =>
      rw [render, fault_sequence, List.findSome?_map] at fails
      rcases List.findSome?_eq_some_iff.mp fails with ⟨before, item, after, rfl, failsInside, earlier⟩
      rw [Function.comp_apply] at failsInside
      -- Nothing but a field with an argument can fail at all.
      cases item with
      | literal text => cases failsInside
      | unreadable source => cases failsInside
      | field source asked =>
          cases found : arguments[asked.index]? with
          | none =>
              rw [itemEffect, renderAll_eq_map, List.getElem?_map, found] at failsInside
              cases failsInside
          | some argument =>
              rw [itemEffect_field found] at failsInside
              have failsArgument := Repetition.fault_of_align failsInside notOverrun
              rcases inductionHypothesis argument (List.mem_of_getElem? found) failsArgument with
                ⟨written, breaksOff⟩
              exact ⟨_, .session source after options earlier found breaksOff⟩

end Renderer

/-! ## Sessions that break off in a field -/

namespace Session

/-- A session breaks off in a field: everything in front of it is written, and its argument breaks off with
the options of the field. -/
structure Interruption (occupancy : Occupancy) (session : Session) where
  before : List Item
  source : Text
  field : Field
  after : List Item
  argument : Renderer
  fault : Fault
  written : Text
  items : session.parsed.items = before ++ .field source field :: after
  found : session.arguments[field.index]? = some argument
  earlier : ∀ item ∈ before, (session.renderItem occupancy item).fault = none
  breaksOff : argument.BreaksOff occupancy field.options fault written

namespace Interruption

variable {occupancy : Occupancy} {session : Session}

/-- What is in the sink after an interruption: the texts of the items in front of the field, and what the
argument has left, unless the field has a width. -/
def leaves (interruption : session.Interruption occupancy) : Text :=
  interruption.before.flatMap (Item.text session.measure (Renderer.textAll occupancy session.arguments)) ++
    if interruption.field.layout.width = 0 then interruption.written else []

end Interruption

/-- A session that breaks off in a field ends in the fault of the argument, and leaves what is complete: the
items in front, and without a width what the argument itself has written.  It breaks off in a field whenever
it fails, unless it fails in an overrun. -/
theorem endsIn_of_interruption (session : Session) (occupancy : Occupancy) :
    (∀ interruption : session.Interruption occupancy,
      (interruption.argument.render occupancy interruption.field.options).EndsIn interruption.fault
          interruption.written ∧
        (session.render occupancy).EndsIn interruption.fault interruption.leaves) ∧
      ∀ fault, (session.render occupancy).fault = some fault → ¬ fault.IsOverrun →
        ∃ interruption : session.Interruption occupancy, interruption.fault = fault := by
  refine ⟨fun interruption => ⟨interruption.breaksOff.endsIn, ?_⟩, fun fault fails notOverrun => ?_⟩
  · have breaksOff := Renderer.BreaksOff.session interruption.source interruption.after []
      interruption.earlier interruption.found interruption.breaksOff
    rw [← interruption.items] at breaksOff
    exact breaksOff.endsIn
  · rcases Renderer.exists_breaksOff fails notOverrun with ⟨written, breaksOff⟩
    rw [renderer] at breaksOff
    generalize items : session.parsed.items = all at breaksOff
    cases breaksOff with
    | session source after options earlier found breaksOff =>
        exact ⟨⟨_, source, _, after, _, fault, _, items, found, earlier, breaksOff⟩, rfl⟩

/-- A renderer that writes a text, and then gives up. -/
def givesUp : Renderer := .custom fun _ _ => ⟨[['p']], [], some (.raised ['n', 'o'])⟩

/-- A session whose second field is a list, between spaces, with an element in the middle that gives up. -/
def givesUpInList : Session :=
  let word := fun c => Renderer.ruled .text (.scalar (.text [c]))
  let items : List Item :=
    [.literal ['a'], .field "\x7b0\x7d".toList ⟨0, Layout.unpadded, []⟩,
      .field "\x7b1:$[;]\x7d".toList ⟨1, Layout.unpadded, "$[;]".toList⟩, .literal ['z']]
  ⟨"a\x7b0\x7d\x7b1:$[;]\x7dz".toList, ⟨0, items⟩, .chars,
    [word 'b', .padded (.sequence [word 'x', givesUp, word 'y']) 2 1]⟩

/-- The session breaks off in its second field. -/
def givesUpInListInterruption : givesUpInList.Interruption fun _ => false where
  before := [.literal ['a'], .field "\x7b0\x7d".toList ⟨0, Layout.unpadded, []⟩]
  source := "\x7b1:$[;]\x7d".toList
  field := ⟨1, Layout.unpadded, "$[;]".toList⟩
  after := [.literal ['z']]
  argument := .padded (.sequence ([.ruled .text (.scalar (.text ['x']))] ++ givesUp ::
    [.ruled .text (.scalar (.text ['y']))])) 2 1
  fault := .raised ['n', 'o']
  written := _
  items := rfl
  found := rfl
  earlier := by decide
  breaksOff := .padded (.sequence _ (by decide) (.custom rfl)) (by decide) 1

theorem endsIn_of_interruption_givesUpInList :
    let session := givesUpInList.render fun _ => false
    session.EndsIn (.raised ['n', 'o']) "ab  x;p".toList ∧
      session.fault = some (.raised ['n', 'o']) ∧ ¬ Fault.IsOverrun (.raised ['n', 'o']) ∧
        ∃ interruption : givesUpInList.Interruption fun _ => false,
          interruption.fault = .raised ['n', 'o'] := by
  intro session
  have breaksOff := endsIn_of_interruption givesUpInList fun _ => false
  have ends := (breaksOff.1 givesUpInListInterruption).2
  have notOverrun : ¬ Fault.IsOverrun (.raised ['n', 'o']) := by simp [Fault.IsOverrun]
  exact ⟨⟨ends.fault, ends.text.trans (by decide)⟩, ends.fault, notOverrun,
    breaksOff.2 _ ends.fault notOverrun⟩

end Session

end FieldText
