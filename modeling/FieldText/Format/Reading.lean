import FieldText.Report

/-!
Readings: what comes of reading a part of a format string.  A reading leaves notices on the way and
ends in a value or at a malformed place.  The same steps serve two modes.  In strict mode a
malformed place ends the reading; in recovering mode it leaves a notice and the reading goes on.
-/

namespace FieldText

/-- Whether malformed places are recovered from. -/
inductive Mode where
  | recovering
  | strict
  deriving DecidableEq, Repr

def Mode.ofStrict (strict : Bool) : Mode := if strict then .strict else .recovering

/-- The notices left by reading and the value that was read, or the place where it ended. -/
structure Reading (α : Type) where
  notices : List Notice
  result : Except Malformation α

namespace Reading

variable {α β : Type}

def pure (value : α) : Reading α := ⟨[], .ok value⟩

def note (notice : Notice) : Reading Unit := ⟨[notice], .ok ()⟩

/-- Report a malformed place: the end of the reading in strict mode, a notice otherwise. -/
def report (mode : Mode) (malformation : Malformation) : Reading Unit :=
  match mode with
  | .strict => ⟨[], .error malformation⟩
  | .recovering => note (.recovered malformation)

/-- Read one part and then, with its value, the next. -/
def andThen (first : Reading α) (next : α → Reading β) : Reading β :=
  match first.result with
  | .error malformation => ⟨first.notices, .error malformation⟩
  | .ok value => ⟨first.notices ++ (next value).notices, (next value).result⟩

def map (change : α → β) (reading : Reading α) : Reading β :=
  reading.andThen fun value => pure (change value)

/-- The recoveries among the notices, in order. -/
def recoveries (reading : Reading α) : List Notice := reading.notices.filter Notice.isRecovery

@[simp]
theorem pure_andThen (value : α) (next : α → Reading β) : (pure value).andThen next = next value := by
  simp [pure, andThen]

theorem andThen_assoc {γ : Type} (first : Reading α) (second : α → Reading β)
    (third : β → Reading γ) :
    (first.andThen second).andThen third = first.andThen fun value => (second value).andThen third := by
  obtain ⟨notices, result⟩ := first
  cases result with
  | error malformation => rfl
  | ok value =>
      simp only [andThen]
      cases (second value).result <;> simp

@[simp]
theorem notices_map (change : α → β) (reading : Reading α) :
    (reading.map change).notices = reading.notices := by
  obtain ⟨notices, result⟩ := reading
  cases result <;> simp [map, andThen, pure]

theorem result_map (change : α → β) (reading : Reading α) :
    (reading.map change).result = reading.result.map change := by
  obtain ⟨notices, result⟩ := reading
  cases result <;> simp [map, andThen, pure, Except.map]

end Reading
end FieldText
