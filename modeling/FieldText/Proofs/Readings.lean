import FieldText.Format.Reading

/-!
Laws of readings.  Changing the value of a reading is a last step that reads nothing, so changes can
be moved past the steps before them and put together.

The main fact concerns the two modes.  They differ in one step only, the report of a malformed place.
Stopping a reading at its first recovery turns the report of recovering mode into the report of
strict mode, and it can be done step by step.  What is read in such steps is therefore read in
strict mode as in recovering mode, up to the first recovery and no further.
-/

namespace FieldText
namespace Reading

variable {α β γ : Type}

@[simp]
theorem map_pure (change : α → β) (value : α) : (pure value).map change = pure (change value) := by
  simp [map]

@[simp]
theorem map_id (reading : Reading α) : (reading.map fun value => value) = reading := by
  rcases reading with ⟨notices, result⟩
  cases result <;> simp [map, andThen, pure]

theorem map_map (first : α → β) (second : β → γ) (reading : Reading α) :
    (reading.map first).map second = reading.map fun value => second (first value) := by
  simp only [map, andThen_assoc, pure_andThen]

theorem map_andThen (first : Reading α) (next : α → Reading β) (change : β → γ) :
    (first.andThen next).map change = first.andThen fun value => (next value).map change := by
  simp only [map, andThen_assoc]

theorem andThen_map (first : Reading α) (change : α → β) (next : β → Reading γ) :
    (first.map change).andThen next = first.andThen fun value => next (change value) := by
  simp only [map, andThen_assoc, pure_andThen]

theorem recoveries_map (change : α → β) (reading : Reading α) :
    (reading.map change).recoveries = reading.recoveries := by
  simp only [recoveries, notices_map]

/-! ## What a sequence yields and where it recovers -/

theorem result_andThen_eq_ok_iff (first : Reading α) (next : α → Reading β) (value : β) :
    (first.andThen next).result = .ok value ↔
      ∃ passed, first.result = .ok passed ∧ (next passed).result = .ok value := by
  rcases first with ⟨notices, result⟩
  cases result <;> simp [andThen]

theorem result_map_eq_ok_iff (change : α → β) (reading : Reading α) (value : β) :
    (reading.map change).result = .ok value ↔
      ∃ read, reading.result = .ok read ∧ change read = value := by
  rcases reading with ⟨notices, result⟩
  cases result <;> simp [map, andThen, pure]

/-- Behind a step that succeeds, the next one decides the result. -/
theorem result_andThen {first : Reading α} {passed : α} (succeeds : first.result = .ok passed)
    (next : α → Reading β) : (first.andThen next).result = (next passed).result := by
  simp only [andThen, succeeds]

/-- The notices of two steps follow one another. -/
theorem notices_andThen {first : Reading α} {passed : α} (succeeds : first.result = .ok passed)
    (next : α → Reading β) :
    (first.andThen next).notices = first.notices ++ (next passed).notices := by
  simp only [andThen, succeeds]

/-- The recoveries of two steps follow one another. -/
theorem recoveries_andThen {first : Reading α} {passed : α} (succeeds : first.result = .ok passed)
    (next : α → Reading β) :
    (first.andThen next).recoveries = first.recoveries ++ (next passed).recoveries := by
  rcases first with ⟨notices, result⟩
  subst succeeds
  simp [recoveries, andThen]

/-- Only the notice of a recovery counts as one, so the first recovery tells of a malformed place. -/
theorem recoveries_cases (reading : Reading α) :
    reading.recoveries = [] ∨
      ∃ malformation later, reading.recoveries = .recovered malformation :: later := by
  cases found : reading.recoveries with
  | nil => exact Or.inl rfl
  | cons notice later =>
      have member : notice ∈ reading.recoveries := found ▸ List.mem_cons_self
      have recovery : notice.isRecovery = true := (List.mem_filter.mp member).2
      cases notice with
      | recovered malformation => exact Or.inr ⟨malformation, later, rfl⟩
      | _ => cases recovery

/-! ## Stopping at the first recovery -/

/-- What strict mode makes of a reading: it ends where the reading recovers for the first time. -/
def stopped (reading : Reading α) : Reading α :=
  match reading.recoveries with
  | .recovered malformation :: _ =>
    ⟨reading.notices.takeWhile fun notice => !notice.isRecovery, .error malformation⟩
  | _ => reading

theorem stopped_of_recoveries_nil {reading : Reading α} (none : reading.recoveries = []) :
    reading.stopped = reading := by
  rw [stopped, none]

theorem stopped_of_recoveries_cons {reading : Reading α} {malformation : Malformation}
    {later : List Notice} (found : reading.recoveries = .recovered malformation :: later) :
    reading.stopped =
      ⟨reading.notices.takeWhile fun notice => !notice.isRecovery, .error malformation⟩ := by
  rw [stopped, found]

/-- The result of a stopped reading is that of the reading, unless there is a recovery. -/
theorem result_stopped_eq_ok_iff (reading : Reading α) (value : α) :
    reading.stopped.result = .ok value ↔
      reading.recoveries = [] ∧ reading.result = .ok value := by
  rcases reading.recoveries_cases with none | ⟨malformation, later, found⟩
  · rw [stopped_of_recoveries_nil none]
    simp [none]
  · rw [stopped_of_recoveries_cons found]
    simp [found]

@[simp]
theorem stopped_pure (value : α) : (pure value).stopped = pure value := rfl

/-- The one step in which the modes differ. -/
theorem report_strict (malformation : Malformation) :
    report .strict malformation = (report .recovering malformation).stopped := rfl

private theorem takeWhile_append_of_recoveries_nil {notices : List Notice}
    (none : notices.filter Notice.isRecovery = []) (more : List Notice) :
    ((notices ++ more).takeWhile fun notice => !notice.isRecovery) =
      notices ++ more.takeWhile fun notice => !notice.isRecovery := by
  apply List.takeWhile_append_of_pos
  intro notice member
  simpa using List.filter_eq_nil_iff.mp none notice member

private theorem takeWhile_append_of_recoveries_cons {notices : List Notice} {first : Notice}
    {later : List Notice} (found : notices.filter Notice.isRecovery = first :: later)
    (more : List Notice) :
    ((notices ++ more).takeWhile fun notice => !notice.isRecovery) =
      notices.takeWhile fun notice => !notice.isRecovery := by
  induction notices with
  | nil => cases found
  | cons notice rest inductionHypothesis =>
      cases recovery : notice.isRecovery with
      | true => simp [recovery]
      | false =>
          have foundLater : rest.filter Notice.isRecovery = first :: later := by
            simpa [recovery] using found
          simp [recovery, inductionHypothesis foundLater]

/-- A sequence is stopped by stopping its steps. -/
theorem stopped_andThen (first : Reading α) (next : α → Reading β) :
    (first.andThen next).stopped = first.stopped.andThen fun value => (next value).stopped := by
  rcases first with ⟨notices, result⟩
  rcases recoveries_cases (Reading.mk notices result) with none | ⟨malformation, later, found⟩
  · rw [stopped_of_recoveries_nil none]
    cases result with
    | error malformation => exact stopped_of_recoveries_nil none
    | ok value =>
        have recoveriesAfter : (andThen ⟨notices, .ok value⟩ next).recoveries = _ :=
          recoveries_andThen rfl next
        rw [none, List.nil_append] at recoveriesAfter
        rcases (next value).recoveries_cases with noneAfter | ⟨malformation, later, foundAfter⟩
        · rw [stopped_of_recoveries_nil (recoveriesAfter.trans noneAfter)]
          simp only [andThen, stopped_of_recoveries_nil noneAfter]
        · rw [stopped_of_recoveries_cons (recoveriesAfter.trans foundAfter)]
          simp only [andThen, stopped_of_recoveries_cons foundAfter,
            takeWhile_append_of_recoveries_nil none]
  · rw [stopped_of_recoveries_cons found]
    cases result with
    | error other => exact stopped_of_recoveries_cons found
    | ok value =>
        have recoveriesAfter : (andThen ⟨notices, .ok value⟩ next).recoveries = _ :=
          recoveries_andThen rfl next
        rw [found, List.cons_append] at recoveriesAfter
        rw [stopped_of_recoveries_cons recoveriesAfter]
        simp only [andThen, takeWhile_append_of_recoveries_cons found]

theorem stopped_map (change : α → β) (reading : Reading α) :
    (reading.map change).stopped = reading.stopped.map change := by
  simp only [map, stopped_andThen, stopped_pure]

end Reading
end FieldText
