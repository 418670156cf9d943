import FieldText.Binding
import Mathlib.Data.List.Forall2

/-!
Binding without memory.  A registry answers a type with what it remembers, or else by a lookup.  To
resolve a type changes no answer, because what is remembered afterwards is what was answered, and a
sequence provider forgets a value as soon as it is done with it.  Binding therefore leaves all answers
and all guards as they were, whether or not it fails.

What becomes of a value then depends on two things only: the answers, and the values around it that
are being bound.  `plainWithin` is binding as a function of these two, and of what becomes of the values
that a preparation asks for, which `plainNested` settles in turn.
-/

namespace FieldText

/-- A provider that is found along a linearization is one of those that are assigned. -/
theorem ProviderMap.exists_mem_of_firstAlong {providers : ProviderMap} {order : List ArgumentType}
    {provider : Provider} (found : providers.firstAlong order = some provider) :
    ∃ entry ∈ providers, entry.2 = provider := by
  rcases List.exists_of_findSome?_eq_some found with ⟨type, _, assigned⟩
  rcases List.lookup_eq_some_iff.mp assigned with ⟨front, back, rfl, _⟩
  exact ⟨(type, provider), List.mem_append_right front List.mem_cons_self, rfl⟩

namespace Registry

/-- What a registry answers for a type: what it remembers, or else what it would look up. -/
def answer? (registry : Registry) (hierarchy : Hierarchy) (type : ArgumentType) : Option Resolution :=
  (registry.resolved.lookup type).or (lookup hierarchy registry.providers type)

/-- Two registries with the same providers that give the same answers. -/
structure Agrees (hierarchy : Hierarchy) (first second : Registry) : Prop where
  providers : second.providers = first.providers
  answers : second.answer? hierarchy = first.answer? hierarchy

theorem Agrees.refl (hierarchy : Hierarchy) (registry : Registry) : registry.Agrees hierarchy registry :=
  ⟨rfl, rfl⟩

theorem Agrees.trans {hierarchy : Hierarchy} {first second third : Registry}
    (left : Agrees hierarchy first second) (right : Agrees hierarchy second third) :
    Agrees hierarchy first third :=
  ⟨right.providers.trans left.providers, right.answers.trans left.answers⟩

/-- A resolution gives the answer, or the fault that there is none. -/
theorem resolve_fst (registry : Registry) (hierarchy : Hierarchy) (type : ArgumentType) :
    (registry.resolve hierarchy type).1 =
      match registry.answer? hierarchy type with
      | some resolution => .ok resolution
      | none => .error (.unsupportedType type) := by
  cases remembered : registry.resolved.lookup type with
  | some resolution => simp [resolve, answer?, remembered]
  | none =>
      cases found : lookup hierarchy registry.providers type <;>
        simp [resolve, answer?, remembered, found]

/-- What a resolution adds to the memory is the answer that was given anyway. -/
theorem agrees_resolve (registry : Registry) (hierarchy : Hierarchy) (type : ArgumentType) :
    registry.Agrees hierarchy (registry.resolve hierarchy type).2 := by
  cases remembered : registry.resolved.lookup type with
  | some resolution => simpa [resolve, remembered] using Agrees.refl hierarchy registry
  | none =>
      cases found : lookup hierarchy registry.providers type with
      | none => simpa [resolve, remembered, found] using Agrees.refl hierarchy registry
      | some resolution =>
          refine ⟨by simp [resolve, remembered, found], ?_⟩
          funext other
          by_cases same : other = type
          · subst other
            simp [resolve, answer?, remembered, found]
          · have apart : (other == type) = false := beq_eq_false_iff_ne.mpr same
            simp [resolve, answer?, remembered, found, List.lookup_cons, apart]

end Registry

namespace BindingState

/-- A state after another one that answers as it did and guards the same values. -/
structure Keeps (hierarchy : Hierarchy) (before after : BindingState) : Prop where
  busy : after.busy = before.busy
  registry : before.registry.Agrees hierarchy after.registry

variable {hierarchy : Hierarchy}

theorem Keeps.refl (state : BindingState) : state.Keeps hierarchy state := ⟨rfl, .refl _ _⟩

theorem Keeps.trans {first second third : BindingState} (left : Keeps hierarchy first second)
    (right : Keeps hierarchy second third) : Keeps hierarchy first third :=
  ⟨right.busy.trans left.busy, left.registry.trans right.registry⟩

end BindingState

namespace Binding

variable {world : World}

/-! ## What binding leaves as it was -/

/-- Steps of binding that keep answers and guards, whether or not they fail. -/
def Keeping {α β : Type} (world : World) (step : α → BindingState → Outcome β) : Prop :=
  ∀ (input : α) (state : BindingState), state.Keeps world.hierarchy (step input state).2

theorem keeping_bindAll {bindOne : Value → BindingState → Outcome Renderer}
    (keeping : Keeping world bindOne) : Keeping world (bindAll bindOne) := by
  intro values state
  induction values generalizing state with
  | nil => exact .refl state
  | cons value rest inductionHypothesis =>
      have first := keeping value state
      cases bound : bindOne value state with
      | mk outcome middle =>
          rw [bound] at first
          have second := inductionHypothesis middle
          cases outcome with
          | error fault => simpa only [bindAll, bound] using first
          | ok renderer =>
              cases boundRest : bindAll bindOne rest middle with
              | mk outcomeRest last =>
                  rw [boundRest] at second
                  cases outcomeRest <;> simpa only [bindAll, bound, boundRest] using first.trans second

/-- A sequence provider takes a value off its guard again, whatever became of the elements. -/
theorem keeping_bindSequence {bindElements : List Value → BindingState → Outcome (List Renderer)}
    (keeping : Keeping world bindElements) (guard : Nat) :
    Keeping world (bindSequence world.heap bindElements guard) := by
  intro value state
  unfold bindSequence
  split
  · exact .refl state
  · next elements _ =>
      split
      · exact keeping elements state
      · next identity _ =>
          split
          · exact ⟨rfl, .refl _ _⟩
          · have inside := keeping elements { state with busy := (guard, identity) :: state.busy }
            refine ⟨?_, inside.registry⟩
            -- The elements leave the guards as they are, so the first entry is still the one put there.
            simp only [bindElementsOf, inside.busy, List.erase_cons_head]

/-- A preparation leaves as much as the values leave that it asks for. -/
theorem keeping_bindPrepared {bindAsked : Value → BindingState → Outcome Renderer}
    (keepingAsked : Keeping world bindAsked) : Keeping world (bindPrepared bindAsked) := by
  intro preparation state
  induction preparation generalizing state with
  | ready effect => exact .refl state
  | failed fault => exact .refl state
  | bind value next inductionHypothesis =>
      exact (keepingAsked value state).trans (inductionHypothesis _ _)

theorem keeping_bindStep {bindAsked : Value → BindingState → Outcome Renderer}
    {bindElements : List Value → BindingState → Outcome (List Renderer)}
    (keepingAsked : Keeping world bindAsked) (keeping : Keeping world bindElements) :
    Keeping world (bindStep world bindAsked bindElements) := by
  intro value state
  have agrees := state.registry.agrees_resolve world.hierarchy (world.heap.typeOf value)
  unfold bindStep
  cases resolved : state.registry.resolve world.hierarchy (world.heap.typeOf value) with
  | mk outcome registry =>
      rw [resolved] at agrees
      have remembers : state.Keeps world.hierarchy { state with registry := registry } := ⟨rfl, agrees⟩
      cases outcome with
      | error fault => exact remembers
      | ok resolution =>
          cases resolution with
          | intrinsic => exact remembers
          | method method => exact remembers
          | provider provider =>
              cases provider with
              | scalar kind => exact remembers
              | custom provider => exact remembers.trans (keeping_bindPrepared keepingAsked _ _)
              | sequence guard => exact remembers.trans (keeping_bindSequence keeping guard value _)

theorem keeping_bindWithin {bindAsked : Value → BindingState → Outcome Renderer}
    (keepingAsked : Keeping world bindAsked) (room : Nat) :
    Keeping world (bindWithin world bindAsked room) := by
  induction room with
  | zero => exact keeping_bindStep keepingAsked fun _ state => .refl state
  | succ room inductionHypothesis =>
      exact keeping_bindStep keepingAsked (keeping_bindAll inductionHypothesis)

theorem keeping_bindNested (world : World) (nesting : Nat) : Keeping world (bindNested world nesting) := by
  induction nesting with
  | zero => exact fun _ state => .refl state
  | succ nesting inductionHypothesis =>
      exact fun value state => keeping_bindWithin inductionHypothesis _ value state

theorem keeping_bind (world : World) : Keeping world (bind world) := keeping_bindNested world _

theorem keeping_bindArgument (world : World) : Keeping world (bindArgument world) := by
  intro value state
  cases value with
  | wrapper renderer => exact .refl state
  | _ => exact keeping_bind world _ state

theorem keeping_bindArguments (world : World) : Keeping world (bindArguments world) :=
  keeping_bindAll (keeping_bindArgument world)

end Binding

/-! ## The values on the way to a value -/

/-- The one value that is known in a given way. -/
def Identity.value : Identity → Value
  | .place number => .container number
  | .letter character => .scalar .text (.text [character])

namespace Value

theorem eq_value_of_identity? {value : Value} {identity : Identity}
    (known : value.identity? = some identity) : value = identity.value := by
  unfold identity? at known
  split at known
  · cases known
    rfl
  · split at known
    · cases known
      rfl
    · cases known
  · cases known

/-- Whether a value is one of those that are known on the way to it. -/
def isAmong (path : List Identity) (value : Value) : Bool :=
  value.identity?.any fun identity => identity ∈ path

/-- The way to the elements of a value. -/
def enter (path : List Identity) (value : Value) : List Identity := value.identity?.toList ++ path

theorem isAmong_eq_true_iff (path : List Identity) (value : Value) :
    value.isAmong path = true ↔ ∃ identity ∈ path, value.identity? = some identity := by
  unfold isAmong
  cases value.identity? with
  | none => simp
  | some identity => simp [eq_comm]

theorem isAmong_append (front back : List Identity) (value : Value) :
    value.isAmong (front ++ back) = (value.isAmong front || value.isAmong back) := by
  unfold isAmong
  cases value.identity? with
  | none => rfl
  | some identity => simp

end Value

/-! ## Binding as a function of the answers -/

/-- What comes of a preparation, given what comes of the values that it asks for. -/
def Preparation.outcome (answers : Value → Except Fault Renderer) : Preparation → Except Fault Renderer
  | ready effect => .ok (.custom effect)
  | failed fault => .error fault
  | bind value next => (next (answers value)).outcome answers

namespace Binding

section Plain

variable (heap : Heap) (answer : ArgumentType → Option Resolution)
  (plainAsked : List Identity → Value → Except Fault Renderer)

/-- Bind a value, given how to bind what a preparation asks for, and how to bind elements. -/
def plainStep (plainElements : List Identity → List Value → Except Fault (List Renderer))
    (path : List Identity) (value : Value) : Except Fault Renderer :=
  match answer (heap.typeOf value) with
  | none => .error (.unsupportedType (heap.typeOf value))
  | some .intrinsic => .ok value.carried
  | some (.method method) => .ok (.custom fun _ => method.effect value)
  | some (.provider (.scalar kind)) => .ok (.ruled kind value.subject)
  | some (.provider (.custom provider)) => (provider.preparation heap value).outcome (plainAsked path)
  | some (.provider (.sequence _)) =>
    match heap.elements? value with
    | none => .error .unsuitableValue
    | some elements =>
      if value.isAmong path then .ok (.placeholder (heap.placeholder value))
      else (plainElements (value.enter path) elements).map Renderer.sequence

/-- Bind a value with room for a given depth of sequences inside each other. -/
def plainWithin : Nat → List Identity → Value → Except Fault Renderer
  | 0 => plainStep heap answer plainAsked fun _ _ => .error .nestingTooDeep
  | room + 1 => plainStep heap answer plainAsked fun path elements => elements.mapM (plainWithin room path)

/-- Bind a value while only so many more preparations can be under way.  There is the same room for
sequences inside each other in every preparation. -/
def plainNested (room : Nat) : Nat → List Identity → Value → Except Fault Renderer
  | 0 => fun _ _ => .error .nestingTooDeep
  | nesting + 1 => plainWithin heap answer (plainNested room nesting) room

/-- Bind an argument of a session. -/
def plainArgument (room nesting : Nat) : Value → Except Fault Renderer
  | .wrapper renderer => .ok renderer
  | value => plainNested heap answer room (nesting + 1) [] value

/-- The guards agree with the way: a value that is resolved to a sequence provider is on the guard of that
provider if and only if it is on the way.  Whatever else is on a guard is not asked for. -/
def GuardsWay (busy : List (Nat × Identity)) (path : List Identity) : Prop :=
  ∀ (value : Value) (guard : Nat) (identity : Identity), value.identity? = some identity →
    answer (heap.typeOf value) = some (.provider (.sequence guard)) →
      ((guard, identity) ∈ busy ↔ identity ∈ path)

end Plain

section Guards

variable {heap : Heap} {answer : ArgumentType → Option Resolution} {busy : List (Nat × Identity)}
  {path : List Identity}

theorem guardsWay_nil : GuardsWay heap answer [] [] := fun _ _ _ _ _ =>
  iff_of_false List.not_mem_nil List.not_mem_nil

/-- A value is on the guard of its own provider if and only if it is on the way at all. -/
theorem GuardsWay.mem_busy_iff (guards : GuardsWay heap answer busy path) {value : Value} {guard : Nat}
    {identity : Identity} (known : value.identity? = some identity)
    (found : answer (heap.typeOf value) = some (.provider (.sequence guard))) :
    (guard, identity) ∈ busy ↔ value.isAmong path = true := by
  rw [guards value guard identity known found, Value.isAmong, known]
  simp

theorem GuardsWay.enter (guards : GuardsWay heap answer busy path) {value : Value} {guard : Nat}
    {identity : Identity} (known : value.identity? = some identity)
    (found : answer (heap.typeOf value) = some (.provider (.sequence guard))) :
    GuardsWay heap answer ((guard, identity) :: busy) (value.enter path) := by
  intro other holder held knownOther foundOther
  have entered : value.enter path = identity :: path := by rw [Value.enter, known]; rfl
  rw [entered, List.mem_cons, List.mem_cons, guards other holder held knownOther foundOther]
  refine or_congr_left ⟨fun same => congrArg Prod.snd same, ?_⟩
  rintro rfl
  -- The two values are known by the same, so they are one value, with one provider.
  rw [Value.eq_value_of_identity? knownOther, ← Value.eq_value_of_identity? known, found] at foundOther
  cases foundOther
  rfl

end Guards

variable {registry : Registry} {busy : List (Nat × Identity)}

/-- A state that answers as a registry does and guards the values that are said. -/
structure Serves (world : World) (registry : Registry) (busy : List (Nat × Identity))
    (state : BindingState) : Prop where
  registry : registry.Agrees world.hierarchy state.registry
  busy : state.busy = busy

theorem Serves.keeps {before after : BindingState} (serves : Serves world registry busy before)
    (keeps : before.Keeps world.hierarchy after) : Serves world registry busy after :=
  ⟨serves.registry.trans keeps.registry, keeps.busy.trans serves.busy⟩

theorem bindAll_fst {bindOne : Value → BindingState → Outcome Renderer}
    {plainOne : Value → Except Fault Renderer} (keeping : Keeping world bindOne)
    (same : ∀ value state, Serves world registry busy state →
      (bindOne value state).1 = plainOne value)
    (values : List Value) {state : BindingState} (serves : Serves world registry busy state) :
    (bindAll bindOne values state).1 = values.mapM plainOne := by
  induction values generalizing state with
  | nil => rfl
  | cons value rest inductionHypothesis =>
      have first := same value state serves
      have keeps := keeping value state
      cases bound : bindOne value state with
      | mk outcome middle =>
          rw [bound] at first keeps
          rw [List.mapM_cons, ← first]
          cases outcome with
          | error fault => simp only [bindAll, bound]; rfl
          | ok renderer =>
              rw [← inductionHypothesis (serves.keeps keeps)]
              cases boundRest : bindAll bindOne rest middle with
              | mk outcomeRest last =>
                  cases outcomeRest <;> simp only [bindAll, bound, boundRest] <;> rfl

/-- Something is bound as plainly as it is said to be, whatever is being bound around it. -/
def BindsPlainly {α β : Type} (world : World) (registry : Registry)
    (bindIt : α → BindingState → Outcome β) (plainIt : List Identity → α → Except Fault β) : Prop :=
  ∀ busy path, GuardsWay world.heap (registry.answer? world.hierarchy) busy path → ∀ input state,
    Serves world registry busy state → (bindIt input state).1 = plainIt path input

variable {path : List Identity} {bindAsked : Value → BindingState → Outcome Renderer}
  {plainAsked : List Identity → Value → Except Fault Renderer}
  {bindElements : List Value → BindingState → Outcome (List Renderer)}
  {plainElements : List Identity → List Value → Except Fault (List Renderer)}

theorem bindPrepared_fst (keeping : Keeping world bindAsked)
    (plainly : BindsPlainly world registry bindAsked plainAsked)
    (guards : GuardsWay world.heap (registry.answer? world.hierarchy) busy path) (preparation : Preparation)
    {state : BindingState} (serves : Serves world registry busy state) :
    (bindPrepared bindAsked preparation state).1 = preparation.outcome (plainAsked path) := by
  induction preparation generalizing state with
  | ready effect => rfl
  | failed fault => rfl
  | bind value next inductionHypothesis =>
      rw [Preparation.outcome, ← plainly busy path guards value state serves]
      exact inductionHypothesis _ (serves.keeps (keeping value state))

theorem bindSequence_fst (plainly : BindsPlainly world registry bindElements plainElements)
    (guards : GuardsWay world.heap (registry.answer? world.hierarchy) busy path) {value : Value} {guard : Nat}
    (found : registry.answer? world.hierarchy (world.heap.typeOf value) =
      some (.provider (.sequence guard)))
    {state : BindingState} (serves : Serves world registry busy state) :
    (bindSequence world.heap bindElements guard value state).1 =
      plainStep world.heap (registry.answer? world.hierarchy) plainAsked plainElements path value := by
  unfold bindSequence plainStep
  rw [found]
  cases opened : world.heap.elements? value with
  | none => rfl
  | some elements =>
      cases known : value.identity? with
      | none =>
          have inside := plainly busy path guards elements state serves
          simp [Value.isAmong, Value.enter, known, bindElementsOf, inside]
      | some identity =>
          have among := guards.mem_busy_iff known found
          -- The guard of this provider and the values on the way agree on whether the value is back.
          by_cases member : (guard, identity) ∈ busy
          · simp [serves.busy, member, among.mp member]
          · have notAmong : value.isAmong path = false :=
              Bool.eq_false_iff.mpr fun isAmong => member (among.mpr isAmong)
            have inside := plainly _ _ (guards.enter known found) elements
              { state with busy := (guard, identity) :: busy } ⟨serves.registry, rfl⟩
            simp [serves.busy, member, notAmong, bindElementsOf, inside]

theorem bindStep_fst (keepingAsked : Keeping world bindAsked)
    (plainlyAsked : BindsPlainly world registry bindAsked plainAsked)
    (plainly : BindsPlainly world registry bindElements plainElements) :
    BindsPlainly world registry (bindStep world bindAsked bindElements)
      (plainStep world.heap (registry.answer? world.hierarchy) plainAsked plainElements) := by
  intro busy path guards value state serves
  have outcome := state.registry.resolve_fst world.hierarchy (world.heap.typeOf value)
  have agrees := state.registry.agrees_resolve world.hierarchy (world.heap.typeOf value)
  rw [serves.registry.answers] at outcome
  unfold bindStep
  cases resolved : state.registry.resolve world.hierarchy (world.heap.typeOf value) with
  | mk given left =>
      rw [resolved] at outcome agrees
      cases found : registry.answer? world.hierarchy (world.heap.typeOf value) with
      | none =>
          obtain rfl : given = _ := outcome.trans (by rw [found])
          simp [plainStep, found]
      | some resolution =>
          obtain rfl : given = .ok resolution := outcome.trans (by rw [found])
          have servesAfter : Serves world registry busy { state with registry := left } :=
            ⟨serves.registry.trans agrees, serves.busy⟩
          cases resolution with
          | intrinsic => simp [plainStep, found]
          | method method => simp [plainStep, found]
          | provider provider =>
              cases provider with
              | scalar kind => simp [plainStep, found]
              | custom provider =>
                  have prepared := bindPrepared_fst keepingAsked plainlyAsked guards
                    (provider.preparation world.heap value) servesAfter
                  simp [plainStep, found, prepared]
              | sequence guard => exact bindSequence_fst plainly guards found servesAfter

/-- Binding comes to what the answers, the values on the way and the preparations make of it. -/
theorem bindWithin_fst (keepingAsked : Keeping world bindAsked)
    (plainlyAsked : BindsPlainly world registry bindAsked plainAsked) (room : Nat) :
    BindsPlainly world registry (bindWithin world bindAsked room)
      (plainWithin world.heap (registry.answer? world.hierarchy) plainAsked room) := by
  induction room with
  | zero => exact bindStep_fst keepingAsked plainlyAsked fun _ _ _ _ _ _ => rfl
  | succ room inductionHypothesis =>
      refine bindStep_fst keepingAsked plainlyAsked fun busy path guards elements state serves => ?_
      exact bindAll_fst (keeping_bindWithin keepingAsked room)
        (fun value state serves => inductionHypothesis busy path guards value state serves) elements serves

/-- What a preparation asks for comes to the same again, as every preparation has the same room. -/
theorem bindNested_fst (world : World) (registry : Registry) (nesting : Nat) :
    BindsPlainly world registry (bindNested world nesting)
      (plainNested world.heap (registry.answer? world.hierarchy) (depthBound world registry) nesting) := by
  induction nesting with
  | zero => exact fun _ _ _ _ _ _ => rfl
  | succ nesting inductionHypothesis =>
      intro busy path guards value state serves
      have bounds : depthBound world state.registry = depthBound world registry := by
        rw [depthBound, serves.registry.providers, depthBound]
      rw [bindNested, bounds]
      exact bindWithin_fst (keeping_bindNested world nesting) inductionHypothesis _ busy path guards value
        state serves

/-- An argument is bound as if nothing had been bound before. -/
theorem bindArgument_fst (value : Value) {state : BindingState} (serves : Serves world registry [] state) :
    (bindArgument world value state).1 =
      plainArgument world.heap (registry.answer? world.hierarchy) (depthBound world registry) world.nesting
        value := by
  cases value with
  | wrapper renderer => rfl
  | _ => exact bindNested_fst world registry _ [] [] guardsWay_nil _ state serves

/-- Arguments are bound one by one, each as if it were the first. -/
theorem bindArguments_fst (values : List Value) {state : BindingState} (idle : state.busy = []) :
    (bindArguments world values state).1 =
      values.mapM (plainArgument world.heap (state.registry.answer? world.hierarchy)
        (depthBound world state.registry) world.nesting) :=
  bindAll_fst (keeping_bindArgument world) (fun value _ serves => bindArgument_fst value serves) values
    ⟨.refl _ _, idle⟩

/-! ## Values that are bound -/

/-- How a value is bound, given the answers, what becomes of the values that a preparation asks for, and the
values on the way.  A sequence is the sequence of its elements, and one that is on the way to itself is a
placeholder. -/
inductive Binds (heap : Heap) (answer : ArgumentType → Option Resolution)
    (asked : List Identity → Value → Except Fault Renderer) : List Identity → Value → Renderer → Prop where
  | carried {path : List Identity} {value : Value}
      (found : answer (heap.typeOf value) = some .intrinsic) :
      Binds heap answer asked path value value.carried
  | method {path : List Identity} {value : Value} {method : Method}
      (found : answer (heap.typeOf value) = some (.method method)) :
      Binds heap answer asked path value (.custom fun _ => method.effect value)
  | rule {path : List Identity} {value : Value} {kind : ScalarKind}
      (found : answer (heap.typeOf value) = some (.provider (.scalar kind))) :
      Binds heap answer asked path value (.ruled kind value.subject)
  | custom {path : List Identity} {value : Value} {provider : CustomProvider}
      {renderer : Renderer}
      (found : answer (heap.typeOf value) = some (.provider (.custom provider)))
      (made : (provider.preparation heap value).outcome (asked path) = .ok renderer) :
      Binds heap answer asked path value renderer
  | again {path : List Identity} {value : Value} {guard : Nat}
      (found : answer (heap.typeOf value) = some (.provider (.sequence guard)))
      (among : value.isAmong path = true) :
      Binds heap answer asked path value (.placeholder (heap.placeholder value))
  | sequence {path : List Identity} {value : Value} {guard : Nat} {elements : List Value}
      {renderers : List Renderer}
      (found : answer (heap.typeOf value) = some (.provider (.sequence guard)))
      (opened : heap.elements? value = some elements) (notAmong : value.isAmong path = false)
      (length : elements.length = renderers.length)
      (bound : ∀ element renderer, (element, renderer) ∈ elements.zip renderers →
        Binds heap answer asked (value.enter path) element renderer) :
      Binds heap answer asked path value (.sequence renderers)

/-- What is made of every element of a list, when something is made of each. -/
theorem forall₂_of_mapM_eq_ok {α β : Type} {make : α → Except Fault β} {inputs : List α}
    {outputs : List β} (made : inputs.mapM make = .ok outputs) :
    List.Forall₂ (fun input output => make input = .ok output) inputs outputs := by
  induction inputs generalizing outputs with
  | nil =>
      obtain rfl : [] = outputs := Except.ok.inj made
      exact .nil
  | cons input inputs inductionHypothesis =>
      rw [List.mapM_cons] at made
      cases first : make input with
      | error fault => rw [first] at made; cases made
      | ok output =>
          rw [first] at made
          cases rest : inputs.mapM make with
          | error fault => rw [rest] at made; cases made
          | ok others =>
              rw [rest] at made
              obtain rfl : output :: others = outputs := Except.ok.inj made
              exact .cons first (inductionHypothesis rest)

/-- What holds of all that is made of the inputs holds of every output. -/
theorem forall_mem_of_forall₂ {α β : Type} {relation : α → β → Prop} {property : β → Prop}
    {inputs : List α} {outputs : List β} (related : List.Forall₂ relation inputs outputs)
    (carry : ∀ input ∈ inputs, ∀ output, relation input output → property output) :
    ∀ output ∈ outputs, property output := by
  induction related with
  | nil => exact fun _ member => absurd member List.not_mem_nil
  | cons first _ inductionHypothesis =>
      rw [List.forall_mem_cons] at carry ⊢
      exact ⟨carry.1 _ first, inductionHypothesis carry.2⟩

section Binds

variable {heap : Heap} {answer : ArgumentType → Option Resolution}
  {asked : List Identity → Value → Except Fault Renderer} {path : List Identity} {value : Value}
  {renderer : Renderer}

theorem binds_of_plainStep {plainElements : List Identity → List Value → Except Fault (List Renderer)}
    (inside : ∀ path elements renderers, plainElements path elements = .ok renderers →
      List.Forall₂ (Binds heap answer asked path) elements renderers)
    (bound : plainStep heap answer asked plainElements path value = .ok renderer) :
    Binds heap answer asked path value renderer := by
  unfold plainStep at bound
  split at bound
  · cases bound
  · next found => cases bound; exact .carried found
  · next found => cases bound; exact .method found
  · next found => cases bound; exact .rule found
  · next found => exact .custom found bound
  · next found =>
      split at bound
      · cases bound
      · next elements opened =>
          split at bound
          · next among => cases bound; exact .again found among
          · next notAmong =>
              cases made : plainElements (value.enter path) elements with
              | error fault => rw [made] at bound; cases bound
              | ok renderers =>
                  rw [made] at bound
                  cases bound
                  have each := List.forall₂_iff_zip.mp (inside _ _ _ made)
                  exact .sequence found opened (Bool.eq_false_iff.mpr notAmong) each.1
                    fun _ _ member => each.2 member

theorem binds_of_plainWithin {room : Nat} (bound : plainWithin heap answer asked room path value = .ok renderer) :
    Binds heap answer asked path value renderer := by
  induction room generalizing path value renderer with
  | zero => exact binds_of_plainStep (fun _ _ _ made => by cases made) bound
  | succ room inductionHypothesis =>
      refine binds_of_plainStep (fun path elements renderers made => ?_) bound
      exact (forall₂_of_mapM_eq_ok made).imp fun _ _ made => inductionHypothesis made

end Binds

end Binding
end FieldText
