import FieldText.Proofs.Unfoldings
import Mathlib

/-!
What a type is resolved to can be used at once, without binding the value.  For most values this comes to the
same, as they are rendered by one rule in either case.  A sequence provider is different.  A registry that
binds a sequence goes on with the elements itself, but a provider that is used at once knows of no registry,
and binds the elements in the default one.  There the elements may be resolved to something else, and the
sequence may meet itself without being known again.

If the default registry resolves everything inside a sequence as the registry at hand does, then it is rendered
alike.  It need not be the same sequence provider that goes through an element, unless the sequence is inside
itself.  What is inside a sequence is whatever may be bound along with its elements, so it includes what the
provider of an element asks for.
-/

namespace FieldText

namespace Value

variable {heap : Heap} {answer usual : ArgumentType → Option Resolution} {value inner element : Value}

/-- A value may be bound along with another one that is not that value itself, or is met again. -/
def IsInside (heap : Heap) (answer : ArgumentType → Option Resolution) : Value → Value → Prop :=
  Relation.TransGen (MayBind heap answer)

theorem isInside_iff_exists_mayBind :
    IsInside heap answer value inner ↔
      ∃ element, MayBind heap answer value element ∧ MayReach heap answer element inner :=
  Relation.TransGen.head'_iff

/-- Another registry resolves what is inside a value in the same way, and it knows the value again if that is
inside itself. -/
structure SharesInside (heap : Heap) (answer usual : ArgumentType → Option Resolution) (value : Value) :
    Prop where
  alike : ∀ inner, IsInside heap answer value inner →
    Resolution.IsAlike (usual (heap.typeOf inner)) (answer (heap.typeOf inner))
  again : IsInside heap answer value value → usual (heap.typeOf value) = answer (heap.typeOf value)

/-- The way to the elements of a value, when a sequence provider binds them in a registry.  The value itself
is on this way only if the registry would meet it through the same provider. -/
def wayThrough (heap : Heap) (answer : ArgumentType → Option Resolution) (guard : Nat) (value : Value) :
    List Identity :=
  match answer (heap.typeOf value) with
  | some (.provider (.sequence other)) => if other = guard then value.enter [] else []
  | _ => []

theorem wayThrough_of_found {guard : Nat}
    (found : answer (heap.typeOf value) = some (.provider (.sequence guard))) :
    value.wayThrough heap answer guard = value.enter [] := by
  simp [wayThrough, found]

theorem wayThrough_of_not_found {guard : Nat}
    (notFound : answer (heap.typeOf value) ≠ some (.provider (.sequence guard))) :
    value.wayThrough heap answer guard = [] := by
  unfold wayThrough
  split
  · next other found =>
      refine if_neg fun same => notFound ?_
      rw [found, same]
  · rfl

theorem eq_of_isAmong_enter_nil (among : inner.isAmong (value.enter []) = true) : inner = value := by
  refine (isAmong_enter among).resolve_left ?_
  rw [isAmong_nil]
  exact Bool.false_ne_true

/-- That a value is on the way makes no difference to what does not lead back to it. -/
theorem seesAlike_enter_of_not_mayReach (notBack : ¬ MayReach heap answer element value) :
    SeesAlike heap answer answer (value.enter []) [] element where
  alike _ _ := Or.inl rfl
  among inner _ _ reaches _ _ := by
    rw [isAmong_nil, Bool.eq_false_iff]
    intro among
    obtain rfl := eq_of_isAmong_enter_nil among
    exact notBack reaches

/-- A registry that shares what is inside a sequence sees no difference in what may be bound along with it. -/
theorem SharesInside.seesAlike (shares : value.SharesInside heap answer usual) {guard : Nat}
    (found : answer (heap.typeOf value) = some (.provider (.sequence guard)))
    (binds : MayBind heap answer value element) :
    SeesAlike heap usual answer (value.wayThrough heap usual guard) (value.enter []) element := by
  have inside : ∀ inner, MayReach heap answer element inner → value.IsInside heap answer inner :=
    fun inner reaches => isInside_iff_exists_mayBind.mpr ⟨element, binds, reaches⟩
  refine ⟨fun inner reaches => shares.alike inner (inside inner reaches), fun inner _ _ reaches foundInner
    opened => ?_⟩
  by_cases foundUsual : usual (heap.typeOf value) = some (.provider (.sequence guard))
  · rw [wayThrough_of_found foundUsual]
  · -- The value is not inside itself, or else it would be resolved to the same provider.
    have notBack : ¬ MayReach heap answer element value := fun reaches =>
      foundUsual ((shares.again (inside value reaches)).trans found)
    rw [wayThrough_of_not_found foundUsual]
    exact ((seesAlike_enter_of_not_mayReach notBack).among inner _ _ reaches foundInner opened).symm

end Value

namespace Binding

variable {heap : Heap} {answer : ArgumentType → Option Resolution}
  {asked : List Identity → Value → Except Fault Renderer} {value : Value}

/-! ## Sequence providers that are used at once -/

/-- A sequence is bound from what its elements are bound to in less room. -/
theorem exists_mapM_of_plainWithin {room guard : Nat} {renderer : Renderer}
    (bound : plainWithin heap answer asked room [] value = .ok renderer)
    (found : answer (heap.typeOf value) = some (.provider (.sequence guard))) :
    ∃ elements renderers smaller, heap.elements? value = some elements ∧ renderer = .sequence renderers ∧
      smaller < room ∧
        elements.mapM (plainWithin heap answer asked smaller (value.enter [])) = .ok renderers := by
  cases opened : heap.elements? value with
  | none =>
      obtain ⟨plainElements, step⟩ := exists_plainWithin_eq heap answer asked room
      rw [step] at bound
      simp [plainStep, found, opened] at bound
  | some elements =>
      cases room with
      | zero => simp [plainWithin, plainStep, found, opened, Value.isAmong_nil, Except.map] at bound
      | succ smaller =>
          simp only [plainWithin, plainStep, found, opened, Value.isAmong_nil] at bound
          cases made : elements.mapM (plainWithin heap answer asked smaller (value.enter [])) with
          | error fault => rw [made] at bound; cases bound
          | ok renderers =>
              rw [made] at bound
              cases bound
              exact ⟨elements, renderers, smaller, rfl, rfl, Nat.lt_succ_self smaller, made⟩

end Binding

namespace Workspace

variable {workspace : Workspace} {number room : Nat} {value : Value} {options : Text} {renderer : Renderer}

theorem outcome_bind_eq (idle : workspace.busy = []) (number : Nat) (value : Value) :
    Action.outcome (bind number value) workspace =
      Binding.plainNested workspace.heap ((workspace.registry number).answer? workspace.hierarchy)
        (Binding.depthBound workspace.world (workspace.registry number)) (workspace.host.nesting + 1) []
        value := by
  rw [outcome_bind_value, bindWithin_bindingState idle]
  rfl

/-- The chunks that are written, and the fault that comes after them. -/
def shown : Except Fault Rendering → List Text × Option Fault
  | .ok rendering => (rendering.chunks, rendering.fault)
  | .error fault => ([], some fault)

end Workspace
end FieldText
