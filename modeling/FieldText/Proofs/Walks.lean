import FieldText.Proofs.Openings
import FieldText.Proofs.Resolutions
import Mathlib.Data.Finset.Card
import Mathlib.Data.Finset.Range
import Mathlib.Logic.Relation

/-!
The walk through a value.  Binding goes through the elements of every value that is resolved to a
sequence provider, from left to right and deep before wide, and does not enter a value again on the way
through itself.  The walk lists the values in this order, each with the values on the way to it.  It ends,
because on the way down every step enters a container that was not entered before or comes closer to a
letter, and it meets exactly the values that can be reached.  What a preparation asks for is not a part of
the walk, since nobody but the provider knows what becomes of it.
-/

namespace FieldText

namespace Value

/-- Whether a value is a text of one character, which is its own only element. -/
def isLetter : Value → Bool
  | scalar .text (.text [_]) => true
  | _ => false

/-- A letter that is not known again when it is met inside itself. -/
def isEndless (value : Value) : Bool := value.isLetter && value.identity?.isNone

theorem elements?_of_isLetter {value : Value} (letter : value.isLetter = true) (heap : Heap) :
    heap.elements? value = some [value] := by
  unfold isLetter at letter
  split at letter
  · rfl
  · cases letter

theorem isAmong_eq_false_of_isEndless {value : Value} (endless : value.isEndless = true)
    (path : List Identity) : value.isAmong path = false := by
  have unknown : value.identity? = none := by simpa using (Bool.and_eq_true_iff.mp endless).2
  rw [isAmong, unknown]
  rfl

/-! ## How far there is to go -/

/-- The number of containers that are not on the way. -/
def remaining (heap : Heap) (path : List Identity) : Nat :=
  ((Finset.range heap.size).filter fun place => Identity.place place ∉ path).card

theorem remaining_place_lt {heap : Heap} {path : List Identity} {place : Nat} (inside : place < heap.size)
    (notOnPath : Identity.place place ∉ path) :
    remaining heap (.place place :: path) < remaining heap path := by
  refine Finset.card_lt_card ((Finset.ssubset_iff_of_subset ?_).mpr ⟨place, ?_, ?_⟩)
  · exact Finset.monotone_filter_right _ fun other _ notOnLonger onPath =>
      notOnLonger (List.mem_cons_of_mem _ onPath)
  · simpa using ⟨inside, notOnPath⟩
  · simp

theorem remaining_le_size (heap : Heap) (path : List Identity) : remaining heap path ≤ heap.size :=
  (Finset.card_filter_le _ _).trans (Finset.card_range heap.size).le

/-- A bound for the depth of what is still to be entered below a value. -/
def need (heap : Heap) (path : List Identity) (value : Value) : Nat :=
  if value.isAmong path then 0 else if value.isLetter then 1 else remaining heap path + 2

section Walk

variable (heap : Heap) (answer : ArgumentType → Option Resolution)

/-- The elements of a value that are gone through on the way, if it is entered at all. -/
def entered? (path : List Identity) (value : Value) : Option (List Value) :=
  match answer (heap.typeOf value) with
  | some (.provider (.sequence _)) =>
    if value.isAmong path || value.isEndless then none else heap.elements? value
  | _ => none

variable {heap answer}

theorem entered?_eq_some_iff {path : List Identity} {value : Value} {elements : List Value} :
    entered? heap answer path value = some elements ↔
      (∃ guard, answer (heap.typeOf value) = some (.provider (.sequence guard))) ∧
        value.isAmong path = false ∧ value.isEndless = false ∧ heap.elements? value = some elements := by
  unfold entered?
  split
  · next guard found =>
      constructor
      · intro entered
        split at entered
        · cases entered
        · next barred =>
            rw [Bool.not_eq_true, Bool.or_eq_false_iff] at barred
            exact ⟨⟨guard, found⟩, barred.1, barred.2, entered⟩
      · rintro ⟨_, notAmong, notEndless, opened⟩
        simp [notAmong, notEndless, opened]
  · next other =>
      constructor
      · intro entered
        cases entered
      · rintro ⟨⟨guard, found⟩, _⟩
        exact absurd found (other guard)

theorem need_le (path : List Identity) (value : Value) : need heap path value ≤ remaining heap path + 2 := by
  unfold need
  split
  · omega
  · split <;> omega

/-- A value that is entered takes room even when it turns out to be empty. -/
theorem need_pos {path : List Identity} {value : Value} (notAmong : value.isAmong path = false) :
    0 < need heap path value := by
  rw [need, notAmong, if_neg Bool.false_ne_true]
  split <;> omega

theorem need_le_one_of_isLetter {value : Value} (letter : value.isLetter = true) (path : List Identity) :
    need heap path value ≤ 1 := by
  rw [need, if_pos letter]
  split <;> omega

/-- Every step of the walk leaves less to go.  A letter leads to itself, a longer text to letters, and a
container to values that it can no longer be among. -/
theorem need_lt_of_entered? {path : List Identity} {value : Value} {elements : List Value}
    (entered : entered? heap answer path value = some elements) {element : Value}
    (member : element ∈ elements) : need heap (value.enter path) element < need heap path value := by
  obtain ⟨-, notAmong, notEndless, opened⟩ := entered?_eq_some_iff.mp entered
  by_cases letter : value.isLetter = true
  · obtain rfl : [value] = elements :=
      Option.some.inj ((elements?_of_isLetter letter heap).symm.trans opened)
    obtain rfl : element = value := List.mem_singleton.mp member
    cases known : element.identity? with
    | none => simp [isEndless, letter, known] at notEndless
    | some identity =>
        have again : element.isAmong (element.enter path) = true :=
          (isAmong_eq_true_iff _ _).mpr ⟨identity, by simp [enter, known], known⟩
        simp [need, again, notAmong, letter]
  · have size : need heap path value = remaining heap path + 2 := by simp [need, notAmong, letter]
    rw [size]
    unfold Heap.elements? at opened
    split at opened
    · next place =>
        have notOnPath : Identity.place place ∉ path := by simpa [isAmong, identity?] using notAmong
        rcases Option.map_eq_some_iff.mp opened with ⟨container, found, _⟩
        have inside : place < heap.size := (List.getElem?_eq_some_iff.mp found).1
        have less := remaining_place_lt inside notOnPath
        exact lt_of_le_of_lt (need_le (Identity.place place :: path) element) (by omega)
    · cases opened
      rcases List.mem_map.mp member with ⟨character, _, rfl⟩
      exact lt_of_le_of_lt (need_le_one_of_isLetter rfl _) (by omega)
    · cases opened

end Walk

end Value

/-- A value that is met on a walk, and the values on the way to it. -/
structure Visit where
  path : List Identity
  value : Value

namespace Value

section Walk

variable (heap : Heap) (answer : ArgumentType → Option Resolution)

/-- The values that are met on the walk through a value, in order. -/
def walk (path : List Identity) (value : Value) : List Visit :=
  match _entered : entered? heap answer path value with
  | none => [⟨path, value⟩]
  | some elements => ⟨path, value⟩ :: elements.attach.flatMap fun element => walk (value.enter path) element.1
termination_by need heap path value
decreasing_by exact need_lt_of_entered? _entered element.2

variable {heap answer}

theorem walk_of_not_entered {path : List Identity} {value : Value}
    (notEntered : entered? heap answer path value = none) : walk heap answer path value = [⟨path, value⟩] := by
  rw [walk]
  split
  · rfl
  · next entered => cases notEntered.symm.trans entered

theorem walk_of_entered {path : List Identity} {value : Value} {elements : List Value}
    (entered : entered? heap answer path value = some elements) :
    walk heap answer path value = ⟨path, value⟩ :: elements.flatMap (walk heap answer (value.enter path)) := by
  rw [walk]
  split
  · next notEntered => cases notEntered.symm.trans entered
  · next others enteredThere =>
      obtain rfl : others = elements := Option.some.inj (enteredThere.symm.trans entered)
      simp

variable (heap answer) in
/-- Induction along the walk. -/
@[elab_as_elim]
theorem walk_induction {motive : List Identity → Value → Prop}
    (leaf : ∀ path value, entered? heap answer path value = none → motive path value)
    (enter : ∀ path value elements, entered? heap answer path value = some elements →
      (∀ element ∈ elements, motive (value.enter path) element) → motive path value)
    (path : List Identity) (value : Value) : motive path value := by
  induction size : need heap path value using Nat.strongRecOn generalizing path value with
  | ind size inductionHypothesis =>
      cases entered : entered? heap answer path value with
      | none => exact leaf path value entered
      | some elements =>
          refine enter path value elements entered fun element member => ?_
          exact inductionHypothesis _ (size ▸ need_lt_of_entered? entered member) _ _ rfl

/-! ## What can be reached -/

variable (heap answer)

/-- A value that is resolved to a sequence provider leads to each of its elements. -/
def LeadsTo (outer inner : Value) : Prop :=
  ∃ guard elements, answer (heap.typeOf outer) = some (.provider (.sequence guard)) ∧
    heap.elements? outer = some elements ∧ inner ∈ elements

/-- A value reaches itself, and whatever its elements reach. -/
def Reaches : Value → Value → Prop := Relation.ReflTransGen (LeadsTo heap answer)

variable {heap answer}

/-- A value is among those that are met on a walk. -/
def IsMet (visits : List Visit) (value : Value) : Prop := ∃ visit ∈ visits, visit.value = value

theorem isMet_walk_self (path : List Identity) (value : Value) : value.IsMet (walk heap answer path value) := by
  refine ⟨⟨path, value⟩, ?_, rfl⟩
  cases entered : entered? heap answer path value with
  | none => simp [walk_of_not_entered entered]
  | some elements => simp [walk_of_entered entered]

/-- A value that is entered is met, and so is what is met on the walk through its elements. -/
theorem isMet_walk_iff_of_entered {path : List Identity} {value : Value} {elements : List Value}
    (entered : entered? heap answer path value = some elements) (target : Value) :
    target.IsMet (walk heap answer path value) ↔
      target = value ∨ ∃ element ∈ elements, target.IsMet (walk heap answer (value.enter path) element) := by
  simp only [IsMet, walk_of_entered entered, List.exists_mem_cons_iff, List.mem_flatMap]
  refine or_congr eq_comm ?_
  constructor
  · rintro ⟨visit, ⟨element, member, met⟩, same⟩
    exact ⟨element, member, visit, met, same⟩
  · rintro ⟨element, member, visit, met, same⟩
    exact ⟨visit, ⟨element, member, met⟩, same⟩

/-- A value that is on the way to the elements of another one was on the way before, or is that value. -/
theorem isAmong_enter {path : List Identity} {value other : Value}
    (among : other.isAmong (value.enter path) = true) : other.isAmong path = true ∨ other = value := by
  rcases (isAmong_eq_true_iff _ _).mp among with ⟨identity, onPath, known⟩
  rcases List.mem_append.mp onPath with isValue | earlier
  · have knownValue : value.identity? = some identity := by simpa using isValue
    exact Or.inr ((eq_value_of_identity? known).trans (eq_value_of_identity? knownValue).symm)
  · exact Or.inl ((isAmong_eq_true_iff _ _).mpr ⟨identity, earlier, known⟩)

/-- The walk meets the elements of every value that it meets, unless that value was on the way already
when the walk began. -/
theorem isMet_walk_of_leadsTo {path : List Identity} {value outer inner : Value}
    (leads : LeadsTo heap answer outer inner) (met : outer.IsMet (walk heap answer path value)) :
    inner.IsMet (walk heap answer path value) ∨ outer.isAmong path = true := by
  obtain ⟨guard, inside, found, opened, member⟩ := leads
  induction path, value using walk_induction heap answer with
  | leaf path value notEntered =>
      obtain rfl : value = outer := by simpa [IsMet, walk_of_not_entered notEntered] using met
      by_cases among : value.isAmong path = true
      · exact Or.inr among
      · -- Nothing else bars the way but that the value is its own element.
        have endless : value.isEndless = true := by
          by_contra notEndless
          have entered := entered?_eq_some_iff.mpr
            ⟨⟨guard, found⟩, Bool.eq_false_iff.mpr among, Bool.eq_false_iff.mpr notEndless, opened⟩
          cases notEntered.symm.trans entered
        have letter := (Bool.and_eq_true_iff.mp endless).1
        obtain rfl : [value] = inside :=
          Option.some.inj ((elements?_of_isLetter letter heap).symm.trans opened)
        obtain rfl : inner = value := List.mem_singleton.mp member
        exact Or.inl met
  | enter path value elements entered inductionHypothesis =>
      -- The value itself can come back among its elements, where it is not entered again.
      have elementsOfValue : outer = value → inner.IsMet (walk heap answer path value) := by
        rintro rfl
        obtain ⟨-, -, -, openedHere⟩ := entered?_eq_some_iff.mp entered
        obtain rfl : elements = inside := Option.some.inj (openedHere.symm.trans opened)
        exact (isMet_walk_iff_of_entered entered inner).mpr (Or.inr ⟨inner, member, isMet_walk_self _ _⟩)
      rcases (isMet_walk_iff_of_entered entered outer).mp met with same | ⟨element, elementMember, met⟩
      · exact Or.inl (elementsOfValue same)
      · rcases inductionHypothesis element elementMember met with later | among
        · exact Or.inl ((isMet_walk_iff_of_entered entered inner).mpr (Or.inr ⟨element, elementMember, later⟩))
        · rcases isAmong_enter among with earlier | same
          · exact Or.inr earlier
          · exact Or.inl (elementsOfValue same)

theorem reaches_of_isMet_walk {path : List Identity} {start target : Value}
    (met : target.IsMet (walk heap answer path start)) : Reaches heap answer start target := by
  induction path, start using walk_induction heap answer with
  | leaf path value notEntered =>
      obtain rfl : value = target := by simpa [IsMet, walk_of_not_entered notEntered] using met
      exact .refl
  | enter path value elements entered inductionHypothesis =>
      rcases (isMet_walk_iff_of_entered entered target).mp met with rfl | ⟨element, member, met⟩
      · exact .refl
      · obtain ⟨⟨guard, found⟩, -, -, opened⟩ := entered?_eq_some_iff.mp entered
        exact .head ⟨guard, elements, found, opened, member⟩ (inductionHypothesis element member met)

/-- The walk meets what can be reached, and nothing else. -/
theorem isMet_walk_iff (start target : Value) :
    target.IsMet (walk heap answer [] start) ↔ Reaches heap answer start target := by
  constructor
  · exact reaches_of_isMet_walk
  · intro reaches
    induction reaches with
    | refl => exact isMet_walk_self [] start
    | tail _ leads met =>
        rcases isMet_walk_of_leadsTo leads met with later | among
        · exact later
        · rcases (isAmong_eq_true_iff _ _).mp among with ⟨identity, onPath, _⟩
          exact absurd onPath List.not_mem_nil

end Walk

end Value
end FieldText
