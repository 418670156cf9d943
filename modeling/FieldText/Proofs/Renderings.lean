import FieldText.Renderer
import Mathlib.Data.List.Forall2

/-!
What a renderer writes, as a text.  Rendering streams some parts into the sink and renders others aside,
because they have to be measured or repeated.  The text that comes of it is a plain function of the
renderer and the options, defined by the structure of the renderer alone, and `writes_render` says that
every rendering that succeeds writes this text.  Beside the laws for texts stand the laws for the faults
that a rendering can end in.
-/

namespace FieldText

/-! ## Texts without a sink -/

/-- A text several times back to back. -/
def Text.repeated (count : Nat) (text : Text) : Text := (List.replicate count text).flatten

@[simp]
theorem Text.repeated_zero (text : Text) : Text.repeated 0 text = [] := rfl

/-- How many of the missing columns are in front of an item. -/
def Alignment.leading : Alignment → Nat → Nat
  | left, _ => 0
  | center, missing => missing / 2
  | right, missing => missing

/-- A text inside a requested width.  The missing columns are filled with copies of the pad. -/
def Alignment.fit (alignment : Alignment) (amount : Int) (pad : Text) (measure : Measure)
    (text : Text) : Text :=
  let missing := (amount - measure.width text).toNat
  Text.repeated (alignment.leading missing) pad ++ text ++
    Text.repeated (missing - alignment.leading missing) pad

/-- The text of an item of a format string, given the texts of the arguments. -/
def Item.text (measure : Measure) (arguments : List (Text → Text)) : Item → Text
  | literal text => text
  | unreadable _ => []
  | field source asked =>
    match arguments[asked.index]? with
    | some text =>
      asked.layout.alignment.fit asked.layout.width [asked.layout.pad] measure (text asked.options)
    | none => source

namespace Renderer

mutual

/-- The text of a bound value.  The bare adapter has none. -/
def text (occupancy : Occupancy) : Renderer → Text → Text
  | ruled kind subject, options => (kind.render occupancy subject options).text
  | custom effect, options => (effect occupancy options).text
  | placeholder text, _ => text
  | sequence elements, options =>
    let parts := (RangeOptions.read options).1
    Text.join parts.separator ((textAll occupancy elements).map fun text => text parts.element)
  | aligned item alignment amount pad measure, options =>
    alignment.fit amount pad measure (text occupancy item options)
  | padded item left right, options =>
    Text.repeated left.toNat [' '] ++ text occupancy item options ++ Text.repeated right.toNat [' ']
  | repeated item count, options => Text.repeated count.toNat (text occupancy item options)
  | unlaid _, _ => []
  | session items measure arguments, _ => items.flatMap (Item.text measure (textAll occupancy arguments))

/-- The texts of bound values, each still waiting for its options. -/
def textAll (occupancy : Occupancy) : List Renderer → List (Text → Text)
  | [] => []
  | first :: rest => (fun options => text occupancy first options) :: textAll occupancy rest

end

theorem textAll_eq_map (occupancy : Occupancy) (renderers : List Renderer) :
    textAll occupancy renderers = renderers.map (text occupancy) := by
  induction renderers with
  | nil => rfl
  | cons first rest inductionHypothesis => rw [textAll, inductionHypothesis, List.map_cons]

/-- Induction over a renderer and everything inside it. -/
@[elab_as_elim]
theorem induction {motive : Renderer → Prop}
    (ruled : ∀ kind subject, motive (.ruled kind subject))
    (custom : ∀ effect, motive (.custom effect))
    (placeholder : ∀ text, motive (.placeholder text))
    (sequence : ∀ elements, (∀ element ∈ elements, motive element) → motive (.sequence elements))
    (aligned : ∀ item alignment amount pad measure, motive item →
      motive (.aligned item alignment amount pad measure))
    (padded : ∀ item left right, motive item → motive (.padded item left right))
    (repeated : ∀ item count, motive item → motive (.repeated item count))
    (unlaid : ∀ item, motive item → motive (.unlaid item))
    (session : ∀ items measure arguments, (∀ argument ∈ arguments, motive argument) →
      motive (.session items measure arguments)) :
    ∀ renderer, motive renderer
  | .ruled kind subject => ruled kind subject
  | .custom effect => custom effect
  | .placeholder text => placeholder text
  | .sequence elements => sequence elements fun element _ =>
      induction ruled custom placeholder sequence aligned padded repeated unlaid session element
  | .aligned item alignment amount pad measure => aligned item alignment amount pad measure
      (induction ruled custom placeholder sequence aligned padded repeated unlaid session item)
  | .padded item left right => padded item left right
      (induction ruled custom placeholder sequence aligned padded repeated unlaid session item)
  | .repeated item count => repeated item count
      (induction ruled custom placeholder sequence aligned padded repeated unlaid session item)
  | .unlaid item => unlaid item
      (induction ruled custom placeholder sequence aligned padded repeated unlaid session item)
  | .session items measure arguments => session items measure arguments fun argument _ =>
      induction ruled custom placeholder sequence aligned padded repeated unlaid session argument

end Renderer

/-! ## Renderings that write a text -/

namespace Rendering

/-- A rendering that writes the given text unless it fails. -/
def Writes (rendering : Rendering) (text : Text) : Prop :=
  rendering.fault = none → rendering.text = text

theorem writes_text (rendering : Rendering) : rendering.Writes rendering.text := fun _ => rfl

theorem writes_done : done.Writes [] := fun _ => rfl

theorem writes_write (text : Text) : (write text).Writes text := fun _ => text_write text

theorem writes_noteAll (notices : List Notice) : (noteAll notices).Writes [] := fun _ => rfl

theorem writes_fail (fault : Fault) (text : Text) : (fail fault).Writes text := fun succeeded => by
  cases succeeded

theorem Writes.andThen {first second : Rendering} {front back : Text} (writesFirst : first.Writes front)
    (writesSecond : second.Writes back) : (first.andThen second).Writes (front ++ back) := by
  intro succeeded
  rw [andThen_fault, Option.or_eq_none_iff] at succeeded
  rw [text_andThen succeeded.1, writesFirst succeeded.1, writesSecond succeeded.2]

theorem Writes.collect {item : Rendering} {next : Text → Rendering} {aside text : Text}
    (writesItem : item.Writes aside) (writesNext : (next aside).Writes text) :
    (item.collect next).Writes text := by
  rcases item with ⟨chunks, notices, fault⟩
  cases fault with
  | some fault => exact writes_fail fault text
  | none =>
      intro succeeded
      have same : Rendering.text ⟨chunks, notices, none⟩ = aside := writesItem rfl
      simp only [Rendering.collect, same] at succeeded ⊢
      exact writesNext succeeded

theorem writes_sequence {renderings : List Rendering} {texts : List Text}
    (writes : List.Forall₂ Writes renderings texts) : (sequence renderings).Writes texts.flatten := by
  induction writes with
  | nil => exact writes_done
  | cons first _ inductionHypothesis => exact first.andThen inductionHypothesis

/-! ## Renderings that fail in known ways -/

/-- A rendering that ends in no other faults than the allowed ones. -/
def FailsOnly (allowed : Fault → Prop) (rendering : Rendering) : Prop :=
  ∀ fault, rendering.fault = some fault → allowed fault

variable {allowed : Fault → Prop}

theorem failsOnly_done : done.FailsOnly allowed := nofun

theorem failsOnly_write (text : Text) : (write text).FailsOnly allowed := nofun

theorem failsOnly_note (notice : Notice) : (note notice).FailsOnly allowed := nofun

theorem failsOnly_noteAll (notices : List Notice) : (noteAll notices).FailsOnly allowed := nofun

theorem failsOnly_fail {fault : Fault} (isAllowed : allowed fault) : (fail fault).FailsOnly allowed := by
  intro same ends
  cases ends
  exact isAllowed

theorem FailsOnly.andThen {first second : Rendering} (failsFirst : first.FailsOnly allowed)
    (failsSecond : second.FailsOnly allowed) : (first.andThen second).FailsOnly allowed := by
  intro fault ends
  rw [andThen_fault, Option.or_eq_some_iff] at ends
  rcases ends with first | ⟨_, second⟩
  · exact failsFirst fault first
  · exact failsSecond fault second

theorem FailsOnly.collect {item : Rendering} {next : Text → Rendering}
    (failsItem : item.FailsOnly allowed) (failsNext : ∀ text, (next text).FailsOnly allowed) :
    (item.collect next).FailsOnly allowed := by
  rcases item with ⟨chunks, notices, fault⟩
  cases fault with
  | some fault => exact failsItem
  | none => exact failsNext _

theorem failsOnly_ofExcept {α : Type} {outcome : Except Fault α} {next : α → Rendering}
    (isAllowed : ∀ fault, outcome = .error fault → allowed fault)
    (failsNext : ∀ value, (next value).FailsOnly allowed) : (ofExcept outcome next).FailsOnly allowed := by
  cases outcome with
  | error fault => exact failsOnly_fail (isAllowed fault rfl)
  | ok value => exact failsNext value

theorem findSome?_fault_cons (first : Rendering) (rest : List Rendering) :
    (first :: rest).findSome? fault = first.fault.or (rest.findSome? fault) := by
  rw [List.findSome?_cons]
  cases first.fault <;> rfl

/-- A sequence ends in the first fault of its parts. -/
theorem fault_sequence (renderings : List Rendering) :
    (sequence renderings).fault = renderings.findSome? fault := by
  induction renderings with
  | nil => rfl
  | cons first rest inductionHypothesis =>
      rw [sequence, andThen_fault, inductionHypothesis, findSome?_fault_cons]

theorem failsOnly_sequence {renderings : List Rendering}
    (fails : ∀ rendering ∈ renderings, rendering.FailsOnly allowed) :
    (sequence renderings).FailsOnly allowed := by
  intro fault ends
  rw [fault_sequence] at ends
  rcases List.exists_of_findSome?_eq_some ends with ⟨rendering, member, ends⟩
  exact fails rendering member fault ends

/-- A rendering that leaves nothing but notices before it writes its only chunk or ends in an allowed
fault. -/
inductive WritesAtOnce (allowed : Fault → Prop) : Rendering → Prop where
  | write (text : Text) : WritesAtOnce allowed (Rendering.write text)
  | fail {fault : Fault} (isAllowed : allowed fault) : WritesAtOnce allowed (Rendering.fail fault)
  | note (notice : Notice) {following : Rendering} (writes : WritesAtOnce allowed following) :
      WritesAtOnce allowed ((Rendering.note notice).andThen following)

theorem WritesAtOnce.failsOnly {rendering : Rendering} (writes : rendering.WritesAtOnce allowed) :
    rendering.FailsOnly allowed := by
  induction writes with
  | write text => exact failsOnly_write text
  | fail isAllowed => exact failsOnly_fail isAllowed
  | note notice _ inductionHypothesis => exact (failsOnly_note notice).andThen inductionHypothesis

/-- What is written at once is written whole or not at all. -/
theorem WritesAtOnce.text_eq_nil {rendering : Rendering} (writes : rendering.WritesAtOnce allowed)
    {fault : Fault} (ends : rendering.fault = some fault) : rendering.text = [] := by
  induction writes with
  | write text => cases ends
  | fail isAllowed => rfl
  | note notice _ inductionHypothesis => exact inductionHypothesis ends

theorem writesAtOnce_ofExcept {α : Type} {outcome : Except Fault α} {next : α → Rendering}
    (isAllowed : ∀ fault, outcome = .error fault → allowed fault)
    (writesNext : ∀ value, (next value).WritesAtOnce allowed) :
    (ofExcept outcome next).WritesAtOnce allowed := by
  cases outcome with
  | error fault => exact .fail (isAllowed fault rfl)
  | ok value => exact writesNext value

end Rendering

open Rendering

/-- The fault of a text that would have to be repeated more often than can be counted. -/
def Fault.IsOverrun (fault : Fault) : Prop := fault = .countTooLarge

namespace Repetition

theorem isOverrun_of_copies {count : Nat} {text : Text} {fault : Fault}
    (fails : copies count text = .error fault) : fault.IsOverrun := by
  unfold copies at fails
  split at fails
  · exact (Except.error.inj fails).symm
  · split at fails <;> cases fails

theorem isOverrun_of_padLeft {length : Nat} {pad : Char} {text : Text} {fault : Fault}
    (fails : padLeft length pad text = .error fault) : fault.IsOverrun := by
  unfold padLeft at fails
  split at fails
  · exact (Except.error.inj fails).symm
  · cases fails

section FailsOnly

variable {allowed : Fault → Prop} (overruns : ∀ fault : Fault, fault.IsOverrun → allowed fault)
include overruns

theorem failsOnly_copies (count : Nat) (text : Text) :
    (ofExcept (copies count text) Rendering.write).FailsOnly allowed :=
  failsOnly_ofExcept (fun fault fails => overruns fault (isOverrun_of_copies fails)) failsOnly_write

theorem failsOnly_fill (count : Int) (text : Text) : (fill count text).FailsOnly allowed := by
  unfold fill
  split
  · exact failsOnly_done
  · exact failsOnly_copies overruns _ _

theorem failsOnly_align {item : Rendering} (fails : item.FailsOnly allowed) (alignment : Alignment)
    (amount : Int) (pad : Text) (measure : Measure) :
    (align alignment amount pad measure item).FailsOnly allowed := by
  unfold align
  split
  · exact fails
  · refine fails.collect fun text => ?_
    have writes : (Rendering.write text).FailsOnly allowed := failsOnly_write text
    have fills := fun count => failsOnly_fill overruns count pad
    dsimp only
    split
    · exact writes
    · cases alignment with
      | left => exact writes.andThen (fills _)
      | center => exact (fills _).andThen (writes.andThen (fills _))
      | right => exact (fills _).andThen writes

theorem failsOnly_surround {item : Rendering} (fails : item.FailsOnly allowed) (left right : Int) :
    (surround left right item).FailsOnly allowed :=
  (failsOnly_fill overruns _ _).andThen (fails.andThen (failsOnly_fill overruns _ _))

theorem failsOnly_repeated {item : Rendering} (fails : item.FailsOnly allowed) (count : Int) :
    (repeated count item).FailsOnly allowed := by
  unfold repeated
  split
  · exact failsOnly_done
  · exact fails.collect fun text => failsOnly_copies overruns _ text

end FailsOnly

theorem writes_copies (count : Nat) (text : Text) :
    (ofExcept (copies count text) Rendering.write).Writes (Text.repeated count text) := by
  unfold copies
  split
  · exact writes_fail _ _
  · split
    · next isEmpty =>
        obtain rfl : text = [] := List.isEmpty_iff.mp isEmpty
        simpa [Text.repeated, Rendering.ofExcept] using writes_write []
    · exact writes_write _

theorem writes_fill (count : Int) (text : Text) :
    (fill count text).Writes (Text.repeated count.toNat text) := by
  unfold fill
  split
  · next notPositive =>
      rw [Int.toNat_of_nonpos notPositive]
      exact writes_done
  · exact writes_copies count.toNat text

theorem writes_align {item : Rendering} {text : Text} (writes : item.Writes text)
    (alignment : Alignment) (amount : Int) (pad : Text) (measure : Measure) :
    (align alignment amount pad measure item).Writes (alignment.fit amount pad measure text) := by
  unfold align
  split
  · next noWidth =>
      have wide : (0 - (measure.width text : Int)).toNat = 0 := by omega
      have inside : alignment.leading 0 = 0 := by cases alignment <;> rfl
      simpa [Alignment.fit, noWidth, inside] using writes
  · refine writes.collect ?_
    simp only [Alignment.fit]
    -- The rest depends on the missing columns only, of which there may be less than none.
    generalize amount - (measure.width text : Int) = missing
    split
    · next wide =>
        have inside : alignment.leading 0 = 0 := by cases alignment <;> rfl
        simpa [Int.toNat_of_nonpos wide, inside] using writes_write text
    · cases alignment with
      | left => simpa [Alignment.leading] using (writes_write text).andThen (writes_fill missing pad)
      | right => simpa [Alignment.leading] using (writes_fill missing pad).andThen (writes_write text)
      | center =>
          have front : (missing / 2).toNat = missing.toNat / 2 := by omega
          have back : (missing - missing / 2).toNat = missing.toNat - missing.toNat / 2 := by omega
          have writesAll := (writes_fill (missing / 2) pad).andThen
            ((writes_write text).andThen (writes_fill (missing - missing / 2) pad))
          rw [front, back] at writesAll
          simpa [Alignment.leading] using writesAll

theorem writes_surround {item : Rendering} {text : Text} (writes : item.Writes text) (left right : Int) :
    (surround left right item).Writes
      (Text.repeated left.toNat [' '] ++ text ++ Text.repeated right.toNat [' ']) := by
  rw [List.append_assoc]
  exact (writes_fill left [' ']).andThen (writes.andThen (writes_fill right [' ']))

/-- An item that is not asked for at all is not even rendered. -/
theorem writes_repeated {item : Rendering} {text : Text} (writes : item.Writes text) (count : Int) :
    (repeated count item).Writes (Text.repeated count.toNat text) := by
  unfold repeated
  split
  · next notPositive =>
      rw [Int.toNat_of_nonpos notPositive]
      exact writes_done
  · exact writes.collect (writes_copies count.toNat text)

end Repetition

namespace Renderer

theorem writes_joinEffects (separator : Text) {effects : List Rendering} {texts : List Text}
    (writes : List.Forall₂ Writes effects texts) :
    (joinEffects separator effects).Writes (Text.join separator texts) := by
  induction writes with
  | nil => exact writes_done
  | cons first rest inductionHypothesis =>
      cases rest with
      | nil => simpa [joinEffects, Text.join] using first
      | cons second rest =>
          have writesAll := first.andThen ((writes_write separator).andThen inductionHypothesis)
          simpa [joinEffects, Text.join] using writesAll

/-- Elements with separators end in the first fault of an element. -/
theorem fault_joinEffects (separator : Text) (effects : List Rendering) :
    (joinEffects separator effects).fault = effects.findSome? Rendering.fault := by
  induction effects with
  | nil => rfl
  | cons first rest inductionHypothesis =>
      cases rest with
      | nil => exact List.findSome?_singleton.symm
      | cons second rest =>
          rw [joinEffects, andThen_fault, andThen_fault, inductionHypothesis, findSome?_fault_cons first]
          rfl

theorem failsOnly_joinEffects {allowed : Fault → Prop} (separator : Text) {effects : List Rendering}
    (fails : ∀ effect ∈ effects, effect.FailsOnly allowed) :
    (joinEffects separator effects).FailsOnly allowed := by
  intro fault ends
  rw [fault_joinEffects] at ends
  rcases List.exists_of_findSome?_eq_some ends with ⟨effect, member, ends⟩
  exact fails effect member fault ends

theorem failsOnly_itemEffect {allowed : Fault → Prop}
    (overruns : ∀ fault : Fault, fault.IsOverrun → allowed fault) {measure : Measure}
    {arguments : List (Text → Rendering)}
    (fails : ∀ argument ∈ arguments, ∀ options, (argument options).FailsOnly allowed) (item : Item) :
    (itemEffect measure arguments item).FailsOnly allowed := by
  cases item with
  | literal text => exact failsOnly_write text
  | unreadable source => exact failsOnly_done
  | field source asked =>
      simp only [itemEffect]
      cases found : arguments[asked.index]? with
      | none => exact (failsOnly_note _).andThen (failsOnly_write _)
      | some effect =>
          have failsEffect := fails effect (List.mem_of_getElem? found) asked.options
          exact Repetition.failsOnly_align overruns failsEffect _ _ _ _

theorem render_sequence (occupancy : Occupancy) (elements : List Renderer) (options : Text) :
    render occupancy (.sequence elements) options =
      (noteAll (RangeOptions.read options).2).andThen
        (joinEffects (RangeOptions.read options).1.separator
          (elements.map fun element => render occupancy element (RangeOptions.read options).1.element)) := by
  rw [render, renderAll_eq_map]
  simp only [List.map_map]
  rfl

theorem itemEffect_field {occupancy : Occupancy} {measure : Measure} {arguments : List Renderer} {asked : Field}
    {argument : Renderer} (found : arguments[asked.index]? = some argument) (source : Text) :
    itemEffect measure (renderAll occupancy arguments) (.field source asked) =
      Repetition.align asked.layout.alignment asked.layout.width [asked.layout.pad] measure
        (render occupancy argument asked.options) := by
  rw [itemEffect, renderAll_eq_map, List.getElem?_map, found]
  rfl

theorem writes_itemEffect {occupancy : Occupancy} {arguments : List Renderer}
    (writes : ∀ argument ∈ arguments, ∀ options,
      (render occupancy argument options).Writes (text occupancy argument options))
    (measure : Measure) (item : Item) :
    (itemEffect measure (renderAll occupancy arguments) item).Writes
      (item.text measure (textAll occupancy arguments)) := by
  cases item with
  | literal text => exact writes_write text
  | unreadable source => exact writes_done
  | field source asked =>
      simp only [itemEffect, Item.text, renderAll_eq_map, textAll_eq_map, List.getElem?_map]
      cases found : arguments[asked.index]? with
      | none => exact writes_write source
      | some argument =>
          have member := List.mem_of_getElem? found
          exact Repetition.writes_align (writes argument member asked.options) _ _ _ _

/-- A rendering that succeeds writes the text of the renderer, whatever was streamed and whatever was
rendered aside. -/
theorem writes_render (occupancy : Occupancy) (renderer : Renderer) (options : Text) :
    (render occupancy renderer options).Writes (text occupancy renderer options) := by
  induction renderer using Renderer.induction generalizing options with
  | ruled kind subject => exact writes_text _
  | custom effect => exact writes_text _
  | placeholder text => exact writes_write text
  | sequence elements inductionHypothesis =>
      rw [render_sequence, text, textAll_eq_map]
      refine (writes_noteAll _).andThen (writes_joinEffects _ ?_)
      rw [List.map_map, List.forall₂_map_left_iff, List.forall₂_map_right_iff,
        List.forall₂_same]
      exact fun element member => inductionHypothesis element member _
  | aligned item alignment amount pad measure inductionHypothesis =>
      exact Repetition.writes_align (inductionHypothesis options) alignment amount pad measure
  | padded item left right inductionHypothesis =>
      exact Repetition.writes_surround (inductionHypothesis options) left right
  | repeated item count inductionHypothesis =>
      exact Repetition.writes_repeated (inductionHypothesis options) count
  | unlaid item _ => exact writes_fail _ _
  | session items measure arguments inductionHypothesis =>
      rw [render, text, List.flatMap_def]
      refine writes_sequence ?_
      rw [List.forall₂_map_left_iff, List.forall₂_map_right_iff, List.forall₂_same]
      exact fun item _ => writes_itemEffect inductionHypothesis measure item

end Renderer
end FieldText
