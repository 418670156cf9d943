import FieldText.Report

/-!
A rendering is what a renderer does to the sink that it writes to: the chunks that it writes, in
order, the notices that it leaves, and the fault that stopped it, if any.  Renderings are put
together in sequence; what follows a fault does not happen.  The laws below say that sequencing is
associative with the empty rendering as its unit, and that it concatenates texts as long as nothing
fails.
-/

namespace FieldText

/-- The complete effect of rendering something into a sink. -/
structure Rendering where
  chunks : List Text
  notices : List Notice
  fault : Option Fault
  deriving DecidableEq, Repr

namespace Rendering

def done : Rendering := ⟨[], [], none⟩

/-- One chunk is written, even when it is empty. -/
def write (chunk : Text) : Rendering := ⟨[chunk], [], none⟩

def note (notice : Notice) : Rendering := ⟨[], [notice], none⟩

def noteAll (notices : List Notice) : Rendering := ⟨[], notices, none⟩

def fail (fault : Fault) : Rendering := ⟨[], [], some fault⟩

def text (rendering : Rendering) : Text := rendering.chunks.flatten

def succeeds (rendering : Rendering) : Bool := rendering.fault.isNone

/-- One rendering and then another, unless the first one fails. -/
def andThen (first second : Rendering) : Rendering :=
  match first.fault with
  | some fault => ⟨first.chunks, first.notices, some fault⟩
  | none => ⟨first.chunks ++ second.chunks, first.notices ++ second.notices, second.fault⟩

/-- Renderings one after the other, up to the first that fails. -/
def sequence : List Rendering → Rendering
  | [] => done
  | first :: rest => first.andThen (sequence rest)

/-- Render aside, then go on with the whole text.  Nothing of an item that fails is written. -/
def collect (item : Rendering) (next : Text → Rendering) : Rendering :=
  match item.fault with
  | some fault => ⟨[], item.notices, some fault⟩
  | none =>
    let following := next item.text
    ⟨following.chunks, item.notices ++ following.notices, following.fault⟩

/-- Go on with a value that may be missing because of a fault. -/
def ofExcept {α : Type} (outcome : Except Fault α) (next : α → Rendering) : Rendering :=
  match outcome with
  | .error fault => fail fault
  | .ok value => next value

@[simp]
theorem done_andThen (rendering : Rendering) : done.andThen rendering = rendering := by
  simp [done, andThen]

@[simp]
theorem andThen_done (rendering : Rendering) : rendering.andThen done = rendering := by
  obtain ⟨chunks, notices, fault⟩ := rendering
  cases fault <;> simp [done, andThen]

theorem andThen_assoc (first second third : Rendering) :
    (first.andThen second).andThen third = first.andThen (second.andThen third) := by
  obtain ⟨chunks, notices, fault⟩ := first
  cases fault with
  | some fault => rfl
  | none =>
      obtain ⟨_, _, later⟩ := second
      cases later <;> simp [andThen]

theorem andThen_fault (first second : Rendering) :
    (first.andThen second).fault = first.fault.or second.fault := by
  obtain ⟨_, _, fault⟩ := first
  cases fault <;> rfl

theorem text_andThen {first : Rendering} (succeeded : first.fault = none) (second : Rendering) :
    (first.andThen second).text = first.text ++ second.text := by
  simp [andThen, text, succeeded]

@[simp]
theorem text_write (chunk : Text) : (write chunk).text = chunk := by
  simp [write, text]

end Rendering
end FieldText
