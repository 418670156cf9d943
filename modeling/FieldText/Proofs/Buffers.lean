import FieldText.Session
import Mathlib.Algebra.GroupWithZero.Nat
import Mathlib.Data.List.TakeDrop

/-!
What a bounded buffer holds.  A buffer never looks back at what was written before: it decides about each
text by the number of characters that it has counted, and only the chunks that it keeps say what it holds.
The two go together, so there is never less room than none, and what is held is the front of all that was
written, however it was cut into writes.  A session can therefore be rendered into a buffer in place of a
text, and nothing is lost but what exceeds the capacity.
-/

namespace FieldText
namespace Buffer

/-! ## Keeping a text -/

@[simp]
theorem capacity_keep (buffer : Buffer) (text : Text) : (buffer.keep text).capacity = buffer.capacity := by
  unfold keep
  split <;> rfl

@[simp]
theorem truncated_keep (buffer : Buffer) (text : Text) :
    (buffer.keep text).truncated = buffer.truncated := by
  unfold keep
  split <;> rfl

/-- A text that is empty is not kept as a chunk, and nothing is missing for that. -/
@[simp]
theorem content_keep (buffer : Buffer) (text : Text) :
    (buffer.keep text).content = buffer.content ++ text := by
  unfold keep
  split
  · next isEmpty => rw [List.isEmpty_iff.mp isEmpty, List.append_nil]
  · simp [content]

@[simp]
theorem size_keep (buffer : Buffer) (text : Text) : (buffer.keep text).size = buffer.size + text.length := by
  unfold keep
  split
  · next isEmpty => rw [List.isEmpty_iff.mp isEmpty, List.length_nil, Nat.add_zero]
  · rfl

/-! ## One write -/

/-- A buffer that holds the front of what was written to it and has counted its characters. -/
structure Holds (buffer : Buffer) (written : Text) : Prop where
  content : buffer.content = written.take buffer.capacity
  size : buffer.size = buffer.content.length
  truncated : buffer.truncated = true ↔ buffer.capacity < written.length

theorem holds_create (capacity : Nat) : (create capacity).Holds [] where
  content := List.take_nil.symm
  size := rfl
  truncated := ⟨nofun, nofun⟩

variable {buffer : Buffer} {written : Text}

theorem Holds.size_eq_min (holds : buffer.Holds written) :
    buffer.size = min buffer.capacity written.length := by
  rw [holds.size, holds.content, List.length_take]

/-- There is never less room than none. -/
theorem Holds.room_eq (holds : buffer.Holds written) :
    buffer.room = (buffer.capacity - written.length : Nat) := by
  rw [room, holds.size_eq_min]
  omega

/-- Whether a text fits or not, what is kept of it is what there is room for. -/
theorem Holds.write_eq (holds : buffer.Holds written) (text : Text) :
    let front := text.take (buffer.capacity - written.length)
    buffer.write text =
      (front.length,
        { buffer with
          truncated := buffer.truncated || decide (buffer.capacity - written.length < text.length) }.keep
            front) := by
  unfold write
  rw [holds.room_eq]
  by_cases fits : text.length ≤ buffer.capacity - written.length
  · have notLess : ¬ ((buffer.capacity - written.length : Nat) : Int) < text.length := by omega
    have notTooLong : ¬ buffer.capacity - written.length < text.length := by omega
    simp [notLess, notTooLong, List.take_of_length_le fits]
  · have less : ((buffer.capacity - written.length : Nat) : Int) < text.length := by omega
    have tooLong : buffer.capacity - written.length < text.length := by omega
    have notNegative : ¬ ((buffer.capacity - written.length : Nat) : Int) < 0 := by omega
    rw [if_pos less]
    simp [Text.upTo, notNegative, tooLong]

/-- After a write the buffer holds the front of one text more, and has counted the characters that it
kept. -/
theorem Holds.write (holds : buffer.Holds written) (text : Text) :
    (buffer.write text).2.Holds (written ++ text) ∧
      (buffer.write text).2.capacity = buffer.capacity ∧
      (buffer.write text).2.size = buffer.size + (buffer.write text).1 := by
  rw [holds.write_eq text]
  refine ⟨⟨?_, ?_, ?_⟩, by simp, by simp⟩
  · rw [content_keep, capacity_keep, List.take_append, ← holds.content]
    rfl
  · rw [content_keep, size_keep, List.length_append]
    exact congrArg (· + _) holds.size
  · simp only [truncated_keep, capacity_keep, Bool.or_eq_true, decide_eq_true_eq, List.length_append,
      holds.truncated]
    omega

/-! ## Many writes -/

/-- A buffer that holds the front of what was written goes on to hold it, and has counted what it kept. -/
theorem Holds.writeAll (holds : buffer.Holds written) (texts : List Text) :
    (buffer.writeAll texts).2.Holds (written ++ texts.flatten) ∧
      (buffer.writeAll texts).2.capacity = buffer.capacity ∧
      (buffer.writeAll texts).2.size = buffer.size + (buffer.writeAll texts).1.sum := by
  induction texts generalizing buffer written with
  | nil => simpa [Buffer.writeAll] using holds
  | cons text rest inductionHypothesis =>
      rcases holds.write text with ⟨holdsText, capacityText, sizeText⟩
      rcases inductionHypothesis holdsText with ⟨holdsRest, capacityRest, sizeRest⟩
      rw [List.append_assoc] at holdsRest
      refine ⟨holdsRest, capacityRest.trans capacityText, ?_⟩
      rw [Buffer.writeAll, sizeRest, sizeText, List.sum_cons, Nat.add_assoc]

/-- What an empty buffer has become after some writes. -/
theorem writeAll_create (capacity : Nat) (texts : List Text) :
    let counts := ((create capacity).writeAll texts).1
    let buffer := ((create capacity).writeAll texts).2
    buffer.content = texts.flatten.take capacity ∧
      buffer.size = buffer.content.length ∧ buffer.size ≤ capacity ∧
      (buffer.truncated = true ↔ capacity < texts.flatten.length) ∧ counts.sum = buffer.size := by
  intro counts buffer
  rcases (holds_create capacity).writeAll texts with ⟨holds, sameCapacity, counted⟩
  have content := holds.content
  have truncated := holds.truncated
  have fits : buffer.size ≤ buffer.capacity := holds.size_eq_min ▸ Nat.min_le_left _ _
  change buffer.capacity = capacity at sameCapacity
  change buffer.size = 0 + counts.sum at counted
  rw [sameCapacity] at content truncated fits
  exact ⟨content, holds.size, fits, truncated, (counted.trans (Nat.zero_add _)).symm⟩

/-- A session fails to be rendered into a buffer with the fault of its text, or else the buffer holds the
front of this text. -/
theorem toBuffer_eq_text? (capacity : Nat) (occupancy : Occupancy) (session : Session) :
    (session.toBuffer occupancy capacity).map (fun buffer => (buffer.content, buffer.truncated)) =
      (session.text? occupancy).map fun text => (text.take capacity, decide (capacity < text.length)) := by
  have created : create? capacity = .ok (create capacity) := if_neg (by omega)
  rcases writeAll_create capacity (session.render occupancy).chunks with ⟨content, _, _, truncated, _⟩
  rw [← Rendering.text] at content truncated
  simp only [Session.toBuffer, Session.text?, created, Except.bind]
  cases (session.render occupancy).fault with
  | some fault => rfl
  | none =>
      have sameFlag := Bool.eq_iff_iff.mpr (truncated.trans decide_eq_true_iff.symm)
      simp only [Except.map, content, sameFlag]

/-- A buffer holds the front of everything that was written to it, in whatever chunks, and its size is the
length of what it holds, which is within the capacity, and the number of characters that the writes
accounted for.  It is truncated if and only if more was written than it can hold.  So a session that is
rendered into a buffer leaves the front of its text there, and the buffer is truncated if and only if the
text is longer; there is no such buffer if and only if there is no text, for the same fault. -/
theorem holds_front (capacity : Nat) :
    (∀ texts : List Text,
      let counts := ((create capacity).writeAll texts).1
      let buffer := ((create capacity).writeAll texts).2
      buffer.content = texts.flatten.take capacity ∧
        buffer.size = buffer.content.length ∧ buffer.size ≤ capacity ∧
        (buffer.truncated = true ↔ capacity < texts.flatten.length) ∧ counts.sum = buffer.size) ∧
    ∀ (occupancy : Occupancy) (session : Session),
      (session.toBuffer occupancy capacity).map (fun buffer => (buffer.content, buffer.truncated)) =
        (session.text? occupancy).map fun text => (text.take capacity, decide (capacity < text.length)) :=
  ⟨writeAll_create capacity, toBuffer_eq_text? capacity⟩

/-- A write that just fits leaves the buffer whole, and an empty write after that too. -/
example : ((create 3).writeAll ["ab".toList, [], ['c'], []]).2 = ⟨3, [['a', 'b'], ['c']], 3, false⟩ := by
  decide

end Buffer
end FieldText
