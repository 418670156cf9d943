import FieldText.Proofs.Renderings

/-!
The limits of rendering.  What is asked for in a field can be more than can be done: a numeral may be too
long to be converted, a number of fraction digits or of copies too large to be counted.  The rules for
scalars and the layout of fields check none of this beforehand.  For the renderers of scalars and of
sequences of such renderers it is said here which limits a rendering has to respect, and that these are
all: a rendering runs to its end if and only if it respects them.
-/

namespace FieldText

/-! ## Renderings that depend on limits -/

namespace Rendering

/-- A rendering that runs to its end if and only if the limits are respected. -/
def CompletesIff (rendering : Rendering) (limits : Prop) : Prop := rendering.fault = none ↔ limits

variable {first second rendering : Rendering} {limits others : Prop}

theorem CompletesIff.of_succeeds (succeeds : rendering.fault = none) : rendering.CompletesIff True :=
  iff_of_true succeeds trivial

theorem completesIff_done : done.CompletesIff True := .of_succeeds rfl

theorem completesIff_write (text : Text) : (write text).CompletesIff True := .of_succeeds rfl

theorem completesIff_note (notice : Notice) : (note notice).CompletesIff True := .of_succeeds rfl

theorem completesIff_noteAll (notices : List Notice) : (noteAll notices).CompletesIff True := .of_succeeds rfl

theorem completesIff_fail (fault : Fault) : (fail fault).CompletesIff False := ⟨nofun, nofun⟩

theorem CompletesIff.congr (completes : rendering.CompletesIff limits) (same : limits ↔ others) :
    rendering.CompletesIff others := Iff.trans completes same

/-- What is refused when too much is asked for completes if and only if it is not refused. -/
theorem CompletesIff.unless {tooMuch : Prop} [Decidable tooMuch] (completes : rendering.CompletesIff True)
    (fault : Fault) : (if tooMuch then fail fault else rendering).CompletesIff (¬ tooMuch) := by
  by_cases refused : tooMuch
  · rw [if_pos refused]
    exact (completesIff_fail fault).congr (by simp [refused])
  · rw [if_neg refused]
    exact completes.congr (by simp [refused])

theorem CompletesIff.andThen (completesFirst : first.CompletesIff limits)
    (completesSecond : second.CompletesIff others) :
    (first.andThen second).CompletesIff (limits ∧ others) := by
  unfold CompletesIff
  rw [andThen_fault, Option.or_eq_none_iff]
  exact and_congr completesFirst completesSecond

/-- What is rendered aside counts, and so does what is done with its text. -/
theorem CompletesIff.collect {next : Text → Rendering} (completes : rendering.CompletesIff limits)
    (completesNext : rendering.fault = none → (next rendering.text).CompletesIff others) :
    (rendering.collect next).CompletesIff (limits ∧ others) := by
  rcases rendering with ⟨chunks, notices, fault⟩
  cases fault with
  | some fault =>
      have broken : ¬ limits := fun respected => nomatch Iff.mpr completes respected
      exact (completesIff_fail fault).congr (by simp [broken])
  | none =>
      have respected : limits := Iff.mp completes rfl
      exact CompletesIff.congr (completesNext rfl) (by simp [respected])

theorem completesIff_sequence {α : Type} {parts : List α} {effect : α → Rendering} {limitsOf : α → Prop}
    (completes : ∀ part ∈ parts, (effect part).CompletesIff (limitsOf part)) :
    (sequence (parts.map effect)).CompletesIff (∀ part ∈ parts, limitsOf part) := by
  induction parts with
  | nil => exact completesIff_done.congr (by simp)
  | cons part parts inductionHypothesis =>
      rw [List.forall_mem_cons] at completes
      have completesAll := completes.1.andThen (inductionHypothesis completes.2)
      exact completesAll.congr List.forall_mem_cons.symm

end Rendering

open Rendering

/-! ## Counts, copies and pads -/

namespace Count

/-- The count that a text gives, if it gives one. -/
def asked? : Count → Option Nat
  | given count => some count
  | _ => none

/-- Options with a count can be read unless the count has too many digits. -/
theorem completesIff_withCount {family : CountedOptions} {text : Text} {next : Option Nat → Rendering}
    {limits : Prop} (completes : (next (read text).asked?).CompletesIff limits) :
    (withCount family text next).CompletesIff (read text ≠ .tooLong ∧ limits) := by
  unfold withCount
  cases said : read text with
  | absent => exact (said ▸ completes).congr (by simp)
  | given count => exact (said ▸ completes).congr (by simp)
  | tooLong => exact (completesIff_fail _).congr (by simp)
  | unrecognised =>
      have noted := (completesIff_note (.ignoredCount family text)).andThen (said ▸ completes)
      exact noted.congr (by simp)

end Count

namespace Repetition

theorem completesIff_copies (count : Nat) (c : Char) :
    (ofExcept (copies count [c]) Rendering.write).CompletesIff (count ≤ countLimit) := by
  unfold copies
  simp only [List.length_singleton, Nat.one_mul, Bool.or_self, decide_eq_true_eq]
  rw [apply_ite (ofExcept · Rendering.write)]
  exact (CompletesIff.unless (completesIff_write _) .countTooLarge).congr Nat.not_lt

theorem completesIff_fill (count : Int) (c : Char) :
    (fill count [c]).CompletesIff (count.toNat ≤ countLimit) := by
  unfold fill
  split
  · next notPositive =>
      rw [Int.toNat_of_nonpos notPositive]
      exact completesIff_done.congr (by simp)
  · exact completesIff_copies count.toNat c

theorem completesIff_padLeft (length : Nat) (c : Char) (text : Text) (next : Text → Text) :
    (ofExcept (padLeft length c text) fun padded => Rendering.write (next padded)).CompletesIff
      (length ≤ countLimit) := by
  unfold padLeft
  rw [apply_ite (ofExcept · fun padded => Rendering.write (next padded))]
  exact (CompletesIff.unless (completesIff_write _) .countTooLarge).congr Nat.not_lt

/-- The pads on either side of a text inside a width are no more than can be counted. -/
def CanPad (alignment : Alignment) (amount : Int) (width : Nat) : Prop :=
  let missing := (amount - width).toNat
  alignment.leading missing ≤ countLimit ∧ missing - alignment.leading missing ≤ countLimit

theorem canPad_of_wide (alignment : Alignment) {amount : Int} {width : Nat} (wide : amount ≤ width) :
    CanPad alignment amount width := by
  have inside : alignment.leading 0 = 0 := by cases alignment <;> rfl
  have noneMissing : (amount - width).toNat = 0 := by omega
  simp [CanPad, noneMissing, inside]

theorem completesIff_align {item : Rendering} {limits : Prop} {text : Text} (completes : item.CompletesIff limits)
    (writes : item.Writes text) (alignment : Alignment) (amount : Int) (c : Char) (measure : Measure) :
    (align alignment amount [c] measure item).CompletesIff
      (limits ∧ CanPad alignment amount (measure.width text)) := by
  unfold align
  split
  · next noWidth =>
      have canPad : CanPad alignment amount (measure.width text) := canPad_of_wide alignment (by omega)
      exact completes.congr (by simp [canPad])
  · refine completes.collect fun succeeded => ?_
    rw [writes succeeded]
    dsimp only
    split
    · next wide =>
        have canPad : CanPad alignment amount (measure.width text) := canPad_of_wide alignment (by omega)
        exact (completesIff_write _).congr (by simp [canPad])
    · -- The pads in front and behind are filled one after the other, and each of them has to be counted.
      have padded := fun count => completesIff_fill count c
      cases alignment with
      | left =>
          refine ((completesIff_write text).andThen (padded _)).congr ?_
          simp [CanPad, Alignment.leading]
      | right =>
          refine ((padded _).andThen (completesIff_write text)).congr ?_
          simp [CanPad, Alignment.leading]
      | center =>
          refine ((padded _).andThen ((completesIff_write text).andThen (padded _))).congr ?_
          simp only [CanPad, Alignment.leading, true_and]
          constructor <;> rintro ⟨front, back⟩ <;> constructor <;> omega

end Repetition

/-! ## Scalars -/

namespace Scalar

/-- The kind of a scalar. -/
def kind : Scalar → ScalarKind
  | text _ => .text
  | boolean _ => .boolean
  | integer _ => .integer
  | float _ => .float

/-- What the options of a scalar ask for can be done.  A count has to be short enough to be read.  An
integer in base ten has to be short enough to be written, and the least number of its digits small enough
to be counted.  Of fraction digits there is a largest number. -/
def WithinLimits : Scalar → Text → Prop
  | text _, options => Count.read options ≠ .tooLong
  | boolean _, _ => True
  | integer value, options =>
    let (style, count) := IntegerStyle.cut (Text.trim options)
    (∀ grouped, style = .decimal grouped → (Numeral.decimal value.natAbs).length ≤ Numeral.digitLimit) ∧
      Count.read count ≠ .tooLong ∧ (Count.read count).asked?.getD 0 ≤ Repetition.countLimit
  | float _, options =>
    let (style, count) := FloatStyle.cut (Text.trim options)
    Count.read count ≠ .tooLong ∧ (Count.read count).asked?.getD style.defaultPlaces ≤ placesLimit

theorem completesIff_digits (magnitude : Nat) (style : IntegerStyle) {next : Text → Rendering}
    {limits : Prop} (completes : ∀ digits, (next digits).CompletesIff limits) :
    (ofExcept (style.digits magnitude) next).CompletesIff
      ((∀ grouped, style = .decimal grouped →
        (Numeral.decimal magnitude).length ≤ Numeral.digitLimit) ∧ limits) := by
  cases style with
  | decimal grouped =>
      simp only [IntegerStyle.digits, Numeral.write?]
      by_cases short : (Numeral.decimal magnitude).length ≤ Numeral.digitLimit
      · rw [if_pos short]
        exact (completes _).congr (by simp [short])
      · rw [if_neg short]
        exact (completesIff_fail _).congr (by simp [short])
  | hexadecimal capital marked =>
      cases capital with
      | false => exact (completes _).congr (by simp)
      | true => exact (completes _).congr (by simp)

theorem completesIff_renderInteger (value : Int) (options : Text) :
    (renderInteger value options).CompletesIff (WithinLimits (.integer value) options) := by
  rcases parts : IntegerStyle.cut (Text.trim options) with ⟨style, count⟩
  simp only [renderInteger, IntegerStyle.write, WithinLimits, parts]
  apply completesIff_digits
  intro digits
  apply Count.completesIff_withCount
  exact Repetition.completesIff_padLeft _ _ _ _

theorem completesIff_writeWithin (places : Nat) (text : Nat → Text) :
    (FloatStyle.writeWithin places text).CompletesIff (places ≤ placesLimit) :=
  ((completesIff_write (text places)).unless .precisionTooLarge).congr Nat.not_lt

theorem completesIff_renderFloat (value : Double) (options : Text) :
    (renderFloat value options).CompletesIff (WithinLimits (.float value) options) := by
  rcases parts : FloatStyle.cut (Text.trim options) with ⟨style, count⟩
  simp only [renderFloat, FloatStyle.select, WithinLimits, parts]
  apply Count.completesIff_withCount
  exact completesIff_writeWithin _ _

/-- The rule for the kind of a scalar writes it if and only if its options stay within the limits. -/
theorem completesIff_render (content : Scalar) (occupancy : Occupancy) (options : Text) :
    (content.kind.render occupancy (.scalar content) options).CompletesIff
      (content.WithinLimits options) := by
  cases content with
  | text content =>
      refine CompletesIff.congr (Count.completesIff_withCount (completesIff_write _)) ?_
      simp [WithinLimits]
  | boolean value =>
      change (renderBoolean value options).CompletesIff True
      unfold renderBoolean
      dsimp only
      split
      · exact completesIff_write _
      · exact ((completesIff_note _).andThen (completesIff_write _)).congr (and_self_iff)
  | integer value => exact completesIff_renderInteger value options
  | float value => exact completesIff_renderFloat value options

end Scalar

/-! ## Renderers and sessions -/

namespace Renderer

/-- A renderer that the built-in providers make: of a scalar, of a sequence, or a placeholder for a
sequence inside itself. -/
inductive IsBuiltin : Renderer → Prop
  | scalar (content : Scalar) : IsBuiltin (.ruled content.kind (.scalar content))
  | placeholder (text : Text) : IsBuiltin (.placeholder text)
  | sequence {elements : List Renderer} (each : ∀ element ∈ elements, IsBuiltin element) :
      IsBuiltin (.sequence elements)

/-- What the options of a renderer ask for can be done, also of the elements of a sequence and what is
inside them. -/
inductive WithinLimits : Renderer → Text → Prop
  | scalar {kind : ScalarKind} {content : Scalar} {options : Text} (within : content.WithinLimits options) :
      WithinLimits (.ruled kind (.scalar content)) options
  | placeholder {text options : Text} : WithinLimits (.placeholder text) options
  | sequence {elements : List Renderer} {options : Text}
      (each : ∀ element ∈ elements, WithinLimits element (RangeOptions.read options).1.element) :
      WithinLimits (.sequence elements) options

theorem completesIff_joinEffects (separator : Text) {α : Type} {parts : List α} {effect : α → Rendering}
    {limitsOf : α → Prop} (completes : ∀ part ∈ parts, (effect part).CompletesIff (limitsOf part)) :
    (joinEffects separator (parts.map effect)).CompletesIff (∀ part ∈ parts, limitsOf part) := by
  induction parts with
  | nil => exact completesIff_done.congr (by simp)
  | cons part parts inductionHypothesis =>
      rw [List.forall_mem_cons] at completes
      cases parts with
      | nil => exact completes.1.congr (by simp)
      | cons next parts =>
          have completesAll := completes.1.andThen
            ((completesIff_write separator).andThen (inductionHypothesis completes.2))
          exact completesAll.congr (by simp)

/-- A renderer of built-in values runs to its end if and only if its options stay within the limits. -/
theorem completesIff_render (occupancy : Occupancy) {renderer : Renderer} (builtin : renderer.IsBuiltin)
    (options : Text) :
    (renderer.render occupancy options).CompletesIff (renderer.WithinLimits options) := by
  induction builtin generalizing options with
  | scalar content =>
      refine (content.completesIff_render occupancy options).congr ⟨.scalar, fun within => ?_⟩
      cases within with
      | scalar within => exact within
  | placeholder text => exact (completesIff_write text).congr ⟨fun _ => .placeholder, fun _ => trivial⟩
  | @sequence elements _ inductionHypothesis =>
      have completes := (completesIff_noteAll (RangeOptions.read options).2).andThen
        (completesIff_joinEffects (RangeOptions.read options).1.separator fun element member =>
          inductionHypothesis element member (RangeOptions.read options).1.element)
      rw [render_sequence]
      refine completes.congr ⟨fun within => .sequence within.2, fun within => ⟨trivial, ?_⟩⟩
      cases within with
      | sequence each => exact each

end Renderer

/-- What an item asks for can be done.  A field passes its options on to its argument, and pads the text
of the argument with characters that have to be counted; without an argument it asks for nothing. -/
def Item.WithinLimits (occupancy : Occupancy) (measure : Measure) (arguments : List Renderer) :
    Item → Prop
  | field _ asked =>
    ∀ argument, arguments[asked.index]? = some argument →
      argument.WithinLimits asked.options ∧
        Repetition.CanPad asked.layout.alignment asked.layout.width
          (measure.width (argument.text occupancy asked.options))
  | _ => True

theorem Item.completesIff_itemEffect (occupancy : Occupancy) (measure : Measure) {arguments : List Renderer}
    (builtin : ∀ argument ∈ arguments, argument.IsBuiltin) (item : Item) :
    (Renderer.itemEffect measure (Renderer.renderAll occupancy arguments) item).CompletesIff
      (item.WithinLimits occupancy measure arguments) := by
  cases item with
  | literal text => exact completesIff_write text
  | unreadable source => exact completesIff_done
  | field source asked =>
      simp only [Renderer.itemEffect, Renderer.renderAll_eq_map, List.getElem?_map, WithinLimits]
      cases found : arguments[asked.index]? with
      | none =>
          refine ((completesIff_note _).andThen (completesIff_write source)).congr ?_
          simp
      | some argument =>
          have completes := Renderer.completesIff_render occupancy
            (builtin argument (List.mem_of_getElem? found)) asked.options
          have writes := Renderer.writes_render occupancy argument asked.options
          refine (Repetition.completesIff_align completes writes _ _ _ _).congr ?_
          simp

end FieldText
