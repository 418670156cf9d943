import FieldText.Proofs.Openings
import FieldText.Proofs.Resolutions
import FieldText.Proofs.Walks
import Mathlib

/-!
Sessions that do not open for want of a provider.  Binding fails at the first value of the walk through
the arguments that has an obstacle: a type that resolves to nothing, a sequence provider for a value
that has no elements or no end, or a provider that fails to prepare the value.  There is always room enough
to get there, since no provider enters a container twice on the way down; containers inside each other can
be as deep as they like.

So a session wants a provider if and only if the type of such a value resolves to nothing, or a provider
fails to prepare it for want of another one.  This does not depend on the format string, on the settings, or
on what a registry remembers.
-/

namespace FieldText

namespace Binding

/-- The fault that something ended in. -/
def faultOf {α : Type} : Except Fault α → Option Fault
  | .ok _ => none
  | .error fault => some fault

theorem faultOf_eq_some_iff {α : Type} {outcome : Except Fault α} {fault : Fault} :
    faultOf outcome = some fault ↔ outcome = .error fault := by
  cases outcome <;> simp [faultOf]

theorem faultOf_map {α β : Type} (change : α → β) (outcome : Except Fault α) :
    faultOf (outcome.map change) = faultOf outcome := by
  cases outcome <;> rfl

theorem faultOf_mapM {α β : Type} (make : α → Except Fault β) (inputs : List α) :
    faultOf (inputs.mapM make) = inputs.findSome? fun input => faultOf (make input) := by
  induction inputs with
  | nil => rfl
  | cons input inputs inductionHypothesis =>
      rw [List.mapM_cons, List.findSome?_cons, ← inductionHypothesis]
      cases make input with
      | error fault => rfl
      | ok output => cases inputs.mapM make <;> rfl

/-- What is found first in the parts of a list is found first in the list. -/
theorem findSome?_eq_findSome?_flatMap {α β γ : Type} {inputs : List α} {parts : α → List β}
    {find : α → Option γ} {findInPart : β → Option γ}
    (same : ∀ input ∈ inputs, find input = (parts input).findSome? findInPart) :
    inputs.findSome? find = (inputs.flatMap parts).findSome? findInPart := by
  induction inputs with
  | nil => rfl
  | cons input inputs inductionHypothesis =>
      rw [List.forall_mem_cons] at same
      rw [List.findSome?_cons, List.flatMap_cons, List.findSome?_append, same.1,
        inductionHypothesis same.2]
      cases (parts input).findSome? findInPart <;> rfl

end Binding

namespace Visit

section Obstacle

variable (heap : Heap) (answer : ArgumentType → Option Resolution)
  (asked : List Identity → Value → Except Fault Renderer)

/-- What keeps a value from being bound, as far as it does not lie in the elements of the value. -/
def obstacle? (visit : Visit) : Option Fault :=
  match answer (heap.typeOf visit.value) with
  | none => some (.unsupportedType (heap.typeOf visit.value))
  | some (.provider (.custom provider)) =>
    Binding.faultOf ((provider.preparation heap visit.value).outcome (asked visit.path))
  | some (.provider (.sequence _)) =>
    if (heap.elements? visit.value).isNone then some .unsuitableValue
    else if visit.value.isEndless then some .nestingTooDeep
    else none
  | _ => none

/-- A provider of the user fails to prepare the value, for want of a provider for some type. -/
def FailsToPrepare (visit : Visit) (type : ArgumentType) : Prop :=
  ∃ provider prepare, answer (heap.typeOf visit.value) = some (.provider (.custom provider)) ∧
    provider.prepare = some prepare ∧
      (prepare heap visit.value).outcome (asked visit.path) = .error (.unsupportedType type)

end Obstacle

variable {heap : Heap} {answer : ArgumentType → Option Resolution}
  {asked : List Identity → Value → Except Fault Renderer}

theorem obstacle?_eq_unsupportedType_iff {visit : Visit} {type : ArgumentType} :
    visit.obstacle? heap answer asked = some (.unsupportedType type) ↔
      answer (heap.typeOf visit.value) = none ∧ heap.typeOf visit.value = type ∨
        visit.FailsToPrepare heap answer asked type := by
  unfold obstacle? FailsToPrepare
  split
  · next found => simp [found]
  · next provider found =>
      rw [Binding.faultOf_eq_some_iff, found]
      cases way : provider.prepare with
      | none => simp [CustomProvider.preparation, way, Preparation.outcome]
      | some prepare => simp [CustomProvider.preparation, way]
  · next found =>
      simp only [found, reduceCtorEq, false_and, false_or]
      split
      · simp
      · split <;> simp
  · next missing custom sequence =>
      simp only [reduceCtorEq, false_iff]
      rintro (⟨found, -⟩ | ⟨provider, _, found, -⟩)
      · exact missing found
      · exact custom provider found

/-- A value that is entered has no obstacle of its own. -/
theorem obstacle?_of_entered {visit : Visit} {elements : List Value}
    (entered : visit.value.entered? heap answer visit.path = some elements) :
    visit.obstacle? heap answer asked = none := by
  obtain ⟨⟨guard, found⟩, -, notEndless, opened⟩ := Value.entered?_eq_some_iff.mp entered
  simp [obstacle?, found, opened, notEndless]

end Visit

/-! ## Providers that have elements bound -/

namespace Preparation

end Preparation

/-- A type resolves to a sequence provider only if this provider is assigned. -/
theorem Registry.mem_guards_of_lookup {hierarchy : Hierarchy} {providers : ProviderMap}
    {type : ArgumentType} {guard : Nat}
    (found : lookup hierarchy providers type = some (.provider (.sequence guard))) :
    guard ∈ providers.guards := by
  unfold lookup at found
  split at found
  · cases found
  · cases found
  · rcases Option.map_eq_some_iff.mp found with ⟨provider, first, same⟩
    cases same
    rcases ProviderMap.exists_mem_of_firstAlong first with ⟨entry, member, assigned⟩
    exact List.mem_filterMap.mpr ⟨entry, member, by rw [assigned]⟩

namespace Binding

variable {heap : Heap} {answer : ArgumentType → Option Resolution}
  {asked : List Identity → Value → Except Fault Renderer}

/-- A value without an end takes up all the room that there is. -/
theorem plainWithin_of_isEndless {value : Value} (endless : value.isEndless = true) {guard : Nat}
    (found : answer (heap.typeOf value) = some (.provider (.sequence guard))) (room : Nat)
    (path : List Identity) : plainWithin heap answer asked room path value = .error .nestingTooDeep := by
  have opened := Value.elements?_of_isLetter (Bool.and_eq_true_iff.mp endless).1 heap
  have notAmong := Value.isAmong_eq_false_of_isEndless endless
  induction room generalizing path with
  | zero => simp [plainWithin, plainStep, found, opened, notAmong, Except.map]
  | succ room inductionHypothesis =>
      simp only [plainWithin, plainStep, found, opened, notAmong, List.mapM_cons, inductionHypothesis]
      rfl

/-- Whatever the room, binding is one step that leaves the elements to something else. -/
theorem exists_plainWithin_eq (heap : Heap) (answer : ArgumentType → Option Resolution)
    (asked : List Identity → Value → Except Fault Renderer) (room : Nat) :
    ∃ plainElements, plainWithin heap answer asked room = plainStep heap answer asked plainElements := by
  cases room with
  | zero => exact ⟨_, rfl⟩
  | succ room => exact ⟨_, rfl⟩

/-- A value that is not entered is bound without regard to the room, unless it has an obstacle. -/
theorem faultOf_plainWithin_of_not_entered {path : List Identity} {value : Value}
    (notEntered : value.entered? heap answer path = none) (room : Nat) :
    faultOf (plainWithin heap answer asked room path value) =
      Visit.obstacle? heap answer asked ⟨path, value⟩ := by
  obtain ⟨plainElements, step⟩ := exists_plainWithin_eq heap answer asked room
  unfold Visit.obstacle?
  split
  · next found => simp [step, plainStep, found, faultOf]
  · next provider found => simp [step, plainStep, found]
  · next guard found =>
      by_cases endless : value.isEndless = true
      · have opened := Value.elements?_of_isLetter (Bool.and_eq_true_iff.mp endless).1 heap
        simp [plainWithin_of_isEndless endless found, opened, endless, faultOf]
      · cases opened : heap.elements? value with
        | none => simp [step, plainStep, found, opened, faultOf]
        | some elements =>
            have among : value.isAmong path = true := by
              by_contra notAmong
              have entered := Value.entered?_eq_some_iff.mpr
                ⟨⟨guard, found⟩, Bool.eq_false_iff.mpr notAmong, Bool.eq_false_iff.mpr endless, opened⟩
              cases notEntered.symm.trans entered
            simp [step, plainStep, found, opened, among, endless, faultOf]
  · next notMissing notCustom notSequence =>
      cases found : answer (heap.typeOf value) with
      | none => exact absurd found notMissing
      | some resolution =>
          cases resolution with
          | intrinsic => simp [step, plainStep, found, faultOf]
          | method method => simp [step, plainStep, found, faultOf]
          | provider provider =>
              cases provider with
              | scalar kind => simp [step, plainStep, found, faultOf]
              | custom provider => exact absurd found (notCustom provider)
              | sequence guard => exact absurd found (notSequence guard)

/-- With room enough, binding fails at the first obstacle on the walk. -/
theorem faultOf_plainWithin (path : List Identity) (value : Value) {room : Nat}
    (enough : value.need heap path ≤ room) :
    faultOf (plainWithin heap answer asked room path value) =
      (value.walk heap answer path).findSome? (Visit.obstacle? heap answer asked) := by
  induction path, value using Value.walk_induction heap answer generalizing room with
  | leaf path value notEntered =>
      rw [faultOf_plainWithin_of_not_entered notEntered, Value.walk_of_not_entered notEntered]
      simp
  | enter path value elements entered inductionHypothesis =>
      obtain ⟨⟨guard, found⟩, notAmong, -, opened⟩ := Value.entered?_eq_some_iff.mp entered
      have positive : 0 < room := lt_of_lt_of_le (Value.need_pos notAmong) enough
      rcases Nat.exists_eq_succ_of_ne_zero (by omega : room ≠ 0) with ⟨smaller, rfl⟩
      have inside : faultOf (elements.mapM (plainWithin heap answer asked smaller (value.enter path))) =
          (elements.flatMap (Value.walk heap answer (value.enter path))).findSome?
            (Visit.obstacle? heap answer asked) := by
        rw [faultOf_mapM]
        refine findSome?_eq_findSome?_flatMap fun element member => ?_
        exact inductionHypothesis element member
          (Nat.le_of_lt_succ (lt_of_lt_of_le (Value.need_lt_of_entered? entered member) enough))
      rw [Value.walk_of_entered entered, List.findSome?_cons, Visit.obstacle?_of_entered entered, ← inside]
      simp [plainWithin, plainStep, found, opened, notAmong, faultOf_map]

/-- The room that is given is enough, since a value is entered by one of the providers that are counted
in it. -/
theorem need_le_depthBound {world : World} {registry : Registry}
    (remembers : registry.answer? world.hierarchy = Registry.lookup world.hierarchy registry.providers)
    {path : List Identity} {value : Value} {elements : List Value}
    (entered : value.entered? world.heap (registry.answer? world.hierarchy) path = some elements) :
    value.need world.heap path ≤ depthBound world registry := by
  obtain ⟨⟨guard, found⟩, -⟩ := Value.entered?_eq_some_iff.mp entered
  rw [remembers] at found
  have positive := List.length_pos_of_mem (Registry.mem_guards_of_lookup found)
  calc value.need world.heap path ≤ Value.remaining world.heap path + 2 := Value.need_le path value
    _ ≤ world.heap.size + 2 := Nat.add_le_add_right (Value.remaining_le_size world.heap path) 2
    _ ≤ registry.providers.guards.length * world.heap.size + textDepth :=
        Nat.add_le_add_right (Nat.le_mul_of_pos_left _ positive) 2

/-- In the room that is given, binding fails at the first obstacle on the walk. -/
theorem faultOf_plainWithin_depthBound (world : World) {registry : Registry}
    (remembers : registry.answer? world.hierarchy = Registry.lookup world.hierarchy registry.providers)
    (path : List Identity) (value : Value) :
    faultOf (plainWithin world.heap (registry.answer? world.hierarchy) asked (depthBound world registry) path
        value) =
      (value.walk world.heap (registry.answer? world.hierarchy) path).findSome?
        (Visit.obstacle? world.heap (registry.answer? world.hierarchy) asked) := by
  cases entered : value.entered? world.heap (registry.answer? world.hierarchy) path with
  | none =>
      rw [faultOf_plainWithin_of_not_entered entered, Value.walk_of_not_entered entered]
      simp
  | some elements => exact faultOf_plainWithin path value (need_le_depthBound remembers entered)

end Binding

/-- The walk through an argument of a session.  There is nothing to walk through in a wrapper. -/
def Value.walkArgument (heap : Heap) (answer : ArgumentType → Option Resolution) : Value → List Visit
  | wrapper _ => []
  | value => walk heap answer [] value

/-- A value that can be reached from an argument of a session which is no wrapper. -/
def Value.IsReachedFrom (heap : Heap) (answer : ArgumentType → Option Resolution) (values : List Value)
    (value : Value) : Prop :=
  ∃ argument ∈ values, (∀ renderer, argument ≠ .wrapper renderer) ∧ Reaches heap answer argument value

theorem Value.isMet_flatMap_walkArgument_iff {heap : Heap} {answer : ArgumentType → Option Resolution}
    {values : List Value} {value : Value} :
    value.IsMet (values.flatMap (walkArgument heap answer)) ↔ IsReachedFrom heap answer values value := by
  have met : ∀ argument, value.IsMet (walkArgument heap answer argument) ↔
      (∀ renderer, argument ≠ .wrapper renderer) ∧ Reaches heap answer argument value := by
    intro argument
    rw [← isMet_walk_iff]
    cases argument <;> simp [walkArgument, IsMet]
  constructor
  · rintro ⟨visit, member, same⟩
    obtain ⟨argument, argumentMember, visited⟩ := List.mem_flatMap.mp member
    exact ⟨argument, argumentMember, (met argument).mp ⟨visit, visited, same⟩⟩
  · rintro ⟨argument, member, reached⟩
    obtain ⟨visit, visited, same⟩ := (met argument).mpr reached
    exact ⟨visit, List.mem_flatMap.mpr ⟨argument, member, visited⟩, same⟩

theorem Binding.faultOf_plainArgument (world : World) {registry : Registry}
    (remembers : registry.answer? world.hierarchy = Registry.lookup world.hierarchy registry.providers)
    (value : Value) :
    let answer := registry.answer? world.hierarchy
    let room := depthBound world registry
    faultOf (plainArgument world.heap answer room world.nesting value) =
      (value.walkArgument world.heap answer).findSome?
        (Visit.obstacle? world.heap answer (plainNested world.heap answer room world.nesting)) := by
  intro answer room
  cases value with
  | wrapper renderer => rfl
  | _ => exact faultOf_plainWithin_depthBound world remembers [] _

namespace Workspace

/-- Binding the arguments of a session fails at the first obstacle on the walk through them. -/
theorem faultOf_boundArguments {workspace : Workspace} {number : Option Nat} {assigned : Assignment}
    (follows : (workspace.registry (number.getD defaultRegistry)).Follows workspace.hierarchy assigned)
    (values : List Value) :
    let answer := assigned.resolution? workspace.hierarchy
    Binding.faultOf (boundArguments workspace number values) =
      (values.flatMap (Value.walkArgument workspace.heap answer)).findSome?
        (Visit.obstacle? workspace.heap answer (workspace.boundWhenAsked number)) := by
  dsimp only
  rw [← follows.answer?, boundArguments, Binding.faultOf_mapM]
  exact Binding.findSome?_eq_findSome?_flatMap fun value _ =>
    Binding.faultOf_plainArgument workspace.world follows.remembers value

end Workspace
end FieldText
