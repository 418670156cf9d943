import FieldText.Format.Parsing
import FieldText.Proofs.Limits
import FieldText.Session
import Mathlib

/-!
How wide a padded field becomes.  The columns that are missing are counted with the measure of the session,
but they are filled with as many copies of the pad, whatever the pad itself measures.  So a field has the
width that was asked for if the pad takes one column, which every character does when characters are counted.
Where cells are counted, a pad of two cells makes the field too wide, and a pad of none leaves it too narrow;
only an item that needs no pad is then as wide as it should be.
-/

namespace FieldText

/-! ## Widths of texts -/

namespace Measure

theorem width_singleton (measure : Measure) (c : Char) : measure.width [c] = measure.charWidth c :=
  Nat.add_zero _

theorem width_repeated (measure : Measure) (count : Nat) (text : Text) :
    measure.width (Text.repeated count text) = count * measure.width text := by
  induction count with
  | zero => rw [Text.repeated_zero, width_nil, Nat.zero_mul]
  | succ count inductionHypothesis =>
      rw [Text.repeated, List.replicate_succ, List.flatten_cons, width_append, ← Text.repeated,
        inductionHypothesis, Nat.add_mul, Nat.one_mul, Nat.add_comm]

end Measure

namespace Alignment

theorem leading_le (alignment : Alignment) (missing : Nat) : alignment.leading missing ≤ missing := by
  cases alignment with
  | left => exact Nat.zero_le _
  | center => exact Nat.div_le_self _ _
  | right => exact Nat.le_refl _

/-- Wherever the text stands, all the missing columns are filled, each with a copy of the pad. -/
theorem width_fit (alignment : Alignment) (amount : Int) (pad : Text) (measure : Measure) (text : Text) :
    measure.width (alignment.fit amount pad measure text) =
      measure.width text + (amount - measure.width text).toNat * measure.width pad := by
  have inside := alignment.leading_le (amount - measure.width text).toNat
  simp only [fit, Measure.width_append, Measure.width_repeated]
  rw [Nat.add_right_comm, ← Nat.add_mul, Nat.add_sub_cancel' inside, Nat.add_comm]

end Alignment

/-- Copies of a pad fill the missing columns exactly if each takes one column, or if none is missing. -/
theorem add_missing_mul_eq_max_iff (wanted width padWidth : Nat) :
    width + (wanted - width) * padWidth = max wanted width ↔ padWidth = 1 ∨ wanted ≤ width := by
  rcases Nat.le_total wanted width with wide | narrow
  · simp [wide, Nat.sub_eq_zero_of_le wide]
  · rcases Nat.exists_eq_add_of_le narrow with ⟨missing, rfl⟩
    rw [Nat.add_sub_cancel_left, Nat.max_eq_left narrow, Nat.add_left_cancel_iff]
    constructor
    · intro filled
      rcases Nat.eq_zero_or_pos missing with rfl | positive
      · exact Or.inr (Nat.le_refl _)
      · exact Or.inl (Nat.eq_of_mul_eq_mul_left positive (filled.trans (Nat.mul_one missing).symm))
    · rintro (one | wide)
      · rw [one, Nat.mul_one]
      · rw [show missing = 0 by omega, Nat.zero_mul]

/-! ## Fields of a session -/

theorem Rendering.sequence_append (front back : List Rendering) :
    sequence (front ++ back) = (sequence front).andThen (sequence back) := by
  induction front with
  | nil => exact (done_andThen _).symm
  | cons first rest inductionHypothesis =>
      rw [List.cons_append, sequence, inductionHypothesis, sequence, andThen_assoc]

namespace Session

/-- What a session writes for an item. -/
def renderItem (occupancy : Occupancy) (session : Session) (item : Item) : Rendering :=
  Renderer.itemEffect session.measure (Renderer.renderAll occupancy session.arguments) item

theorem render_eq_sequence (occupancy : Occupancy) (session : Session) :
    session.render occupancy =
      Rendering.sequence (session.parsed.items.map (session.renderItem occupancy)) := rfl

theorem renderItem_field {session : Session} {field : Field} {argument : Renderer}
    (found : session.arguments[field.index]? = some argument) (occupancy : Occupancy) (source : Text) :
    session.renderItem occupancy (.field source field) =
      Repetition.align field.layout.alignment field.layout.width [field.layout.pad] session.measure
        (argument.render occupancy field.options) :=
  Renderer.itemEffect_field found source

/-- A session writes every field in the place of its item.  When the argument is written as a text, then the
field is written if and only if the pads in front and behind can be counted.  What is written measures as much
as the text, and for each missing column as much as the pad, whatever the columns are that the characters
take.  This is the larger one of the wanted width and the width of the text if and only if the pad takes one
column or the text is as wide as wanted. -/
theorem width_renderItem (session : Session) (occupancy : Occupancy) (before after : List Item)
    {source : Text} {field : Field} (items : session.parsed.items = before ++ .field source field :: after)
    {argument : Renderer} (found : session.arguments[field.index]? = some argument)
    (succeeds : (argument.render occupancy field.options).fault = none) :
    let written := session.renderItem occupancy (.field source field)
    let width := session.measure.width (argument.render occupancy field.options).text
    let wanted := field.layout.width
    let padWidth := session.measure.charWidth field.layout.pad
    session.render occupancy =
        (Rendering.sequence (before.map (session.renderItem occupancy))).andThen
          (written.andThen (Rendering.sequence (after.map (session.renderItem occupancy)))) ∧
      written.CompletesIff (Repetition.CanPad field.layout.alignment wanted width) ∧
      (written.fault = none →
        session.measure.width written.text = width + (wanted - width) * padWidth ∧
        (session.measure.width written.text = max wanted width ↔ padWidth = 1 ∨ wanted ≤ width)) := by
  intro written width wanted padWidth
  have aligned := renderItem_field found occupancy source
  have itself := Rendering.writes_text (argument.render occupancy field.options)
  refine ⟨?_, ?_, fun completed => ?_⟩
  · rw [render_eq_sequence, items, List.map_append, List.map_cons, Rendering.sequence_append]
    rfl
  · have completes := Repetition.completesIff_align (.of_succeeds succeeds) itself field.layout.alignment
      field.layout.width field.layout.pad session.measure
    rw [← aligned] at completes
    exact completes.congr (by rw [true_and])
  · have fitted := Repetition.writes_align itself field.layout.alignment field.layout.width
      [field.layout.pad] session.measure
    rw [← aligned] at fitted
    have measured : session.measure.width written.text = width + (wanted - width) * padWidth := by
      rw [fitted completed, Alignment.width_fit, Measure.width_singleton, Int.toNat_sub]
    exact ⟨measured, measured ▸ add_missing_mul_eq_max_iff wanted width padWidth⟩

/-- Cells as they are counted for ideographs and for letters. -/
def ideographs : Measure := .ofRanges [(0x4E00, 0x9FFF, 2)]

/-- A session that counts cells.  It writes a text of three cells twice, with a pad of one cell and with a
pad of two. -/
def widePads : Session :=
  let fields : List Item :=
    [.field "\x7b0,*=6\x7d".toList ⟨0, ⟨.center, 6, '*'⟩, []⟩,
      .field "\x7b0,日-5\x7d".toList ⟨0, ⟨.left, 5, '日'⟩, []⟩]
  ⟨"\x7b0,*=6\x7d\x7b0,日-5\x7d".toList, ⟨0, fields⟩, ideographs, [.ruled .text (.scalar (.text ['日', 'x']))]⟩

theorem width_renderItem_widePads :
    let occupancy : Occupancy := fun _ => false
    let first := widePads.renderItem occupancy (.field "\x7b0,*=6\x7d".toList ⟨0, ⟨.center, 6, '*'⟩, []⟩)
    let second := widePads.renderItem occupancy (.field "\x7b0,日-5\x7d".toList ⟨0, ⟨.left, 5, '日'⟩, []⟩)
    ((Renderer.ruled .text (.scalar (.text ['日', 'x']))).render occupancy []).fault = none ∧
      first.fault = none ∧ first.text = "*日x**".toList ∧ ideographs.width first.text = max 6 3 ∧
        second.fault = none ∧ second.text = "日x日日".toList ∧ ideographs.width second.text = 3 + 2 * 2 := by
  intro occupancy first second
  have succeeds : ((Renderer.ruled .text (.scalar (.text ['日', 'x']))).render occupancy []).fault = none := rfl
  have ofFirst := widePads.width_renderItem occupancy [] _ rfl rfl succeeds
  have ofSecond := widePads.width_renderItem occupancy
    [.field "\x7b0,*=6\x7d".toList ⟨0, ⟨.center, 6, '*'⟩, []⟩] [] rfl rfl succeeds
  have completed : first.fault = none ∧ second.fault = none := by decide
  exact ⟨succeeds, completed.1, by decide, (ofFirst.2.2 completed.1).2.mpr (Or.inl rfl), completed.2,
    by decide, (ofSecond.2.2 completed.2).1⟩

/-- A field that is padded is not always as wide as it should be: where cells are counted, it is wider when
its pad takes two of them. -/
theorem not_width_renderItem_eq_max :
    ¬ ∀ (session : Session) (occupancy : Occupancy) (source : Text) (field : Field) (argument : Renderer),
      (Format.parse .recovering session.format).result = .ok session.parsed.items →
      .field source field ∈ session.parsed.items → session.arguments[field.index]? = some argument →
      0 < field.layout.width → (argument.render occupancy field.options).fault = none →
      (session.renderItem occupancy (.field source field)).fault = none →
        session.measure.width (session.renderItem occupancy (.field source field)).text =
          max field.layout.width
            (session.measure.width (argument.render occupancy field.options).text) := by
  intro fits
  let field : Field := ⟨0, ⟨.left, 5, '日'⟩, []⟩
  let session : Session :=
    ⟨"\x7b0,日-5\x7d".toList, ⟨0, [.field "\x7b0,日-5\x7d".toList field]⟩, ideographs,
      [.ruled .text (.scalar (.text ['x']))]⟩
  have same := fits session (fun _ => false) "\x7b0,日-5\x7d".toList field
    (.ruled .text (.scalar (.text ['x']))) (by cbv) List.mem_cons_self rfl (by decide) rfl (by decide)
  exact absurd same (by decide)

end Session
end FieldText
