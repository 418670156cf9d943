import FieldText.Registry

/-!
Binding turns a value into a renderer.  The types of the value and of all its elements are resolved
in one registry at this time, so a missing provider is found before anything is written.  A sequence
provider remembers which containers it is about to bind; one that it meets again on the way becomes a
placeholder, which is why binding a cyclic value ends.  What a provider remembers is taken back when
the container is done, also when one of its elements could not be bound.  A text can be bound as the
sequence of its characters, each of which is a text again; it ends where a character is known again.

A provider that prepares its values may have others bound on the way, by the same registry.  Nothing keeps
such preparations from going on without end, so there is a limit to how many are under way at once.
-/

namespace FieldText

/-- What values and types are known while binding, and how many preparations can be under way at once. -/
structure World where
  heap : Heap
  hierarchy : Hierarchy
  nesting : Nat

/-- What a sequence provider knows a value by.  Containers are told from each other by their places.
A text of one character is its own first element, so it is known by that character. -/
inductive Identity where
  | place (place : Nat)
  | letter (character : Char)
  deriving DecidableEq, Repr

/-- What binding changes: the registry remembers resolutions, the guards of the sequence providers
hold what is being bound through them, and notices are left. -/
structure BindingState where
  registry : Registry
  busy : List (Nat × Identity)
  notices : List Notice

namespace Value

def carried : Value → Renderer
  | adapter renderer => renderer
  | session renderer => renderer
  | wrapper renderer => renderer
  | _ => .custom fun _ _ => Rendering.fail .unsuitableValue

/-- The number from which on the code of a character is too large for its text to be known again. -/
def letterLimit : Nat := 0x100

/-- What a value is known by, if it can be met again among its own elements. -/
def identity? : Value → Option Identity
  | container place => some (.place place)
  | scalar .text (.text [c]) => if c.toNat < letterLimit then some (.letter c) else none
  | _ => none

end Value

namespace Binding

/-- The result of one step of binding, and the state that it leaves whether or not it failed. -/
abbrev Outcome (α : Type) := Except Fault α × BindingState

/-- Bind values in order, up to the first that fails. -/
def bindAll (bindOne : Value → BindingState → Outcome Renderer) :
    List Value → BindingState → Outcome (List Renderer)
  | [], state => (.ok [], state)
  | value :: rest, state =>
    match bindOne value state with
    | (.error fault, state) => (.error fault, state)
    | (.ok renderer, state) =>
      match bindAll bindOne rest state with
      | (.error fault, state) => (.error fault, state)
      | (.ok renderers, state) => (.ok (renderer :: renderers), state)

def bindElementsOf (bindElements : List Value → BindingState → Outcome (List Renderer))
    (elements : List Value) (state : BindingState) : Outcome Renderer :=
  let (outcome, state) := bindElements elements state
  (outcome.map Renderer.sequence, state)

/-- Bind a value through a sequence provider.  A value that could be met again counts as busy exactly
while its elements are bound. -/
def bindSequence (heap : Heap) (bindElements : List Value → BindingState → Outcome (List Renderer))
    (guard : Nat) (value : Value) (state : BindingState) : Outcome Renderer :=
  match heap.elements? value with
  | none => (.error .unsuitableValue, state)
  | some elements =>
    match value.identity? with
    | none => bindElementsOf bindElements elements state
    | some identity =>
      if (guard, identity) ∈ state.busy then
        (.ok (.placeholder (heap.placeholder value)),
          { state with notices := state.notices ++ [.recursiveReference (heap.typeOf value)] })
      else
        let (outcome, left) :=
          bindElementsOf bindElements elements
            { state with busy := (guard, identity) :: state.busy }
        (outcome, { left with busy := left.busy.erase (guard, identity) })

/-- Go through with a preparation, given how to bind the values that it asks for. -/
def bindPrepared (bindAsked : Value → BindingState → Outcome Renderer) :
    Preparation → BindingState → Outcome Renderer
  | .ready effect, state => (.ok (.custom effect), state)
  | .failed fault, state => (.error fault, state)
  | .bind value next, state =>
    let (outcome, state) := bindAsked value state
    bindPrepared bindAsked (next outcome) state

/-- Bind a value, given how to bind what a preparation asks for, and how to bind elements. -/
def bindStep (world : World) (bindAsked : Value → BindingState → Outcome Renderer)
    (bindElements : List Value → BindingState → Outcome (List Renderer)) (value : Value)
    (state : BindingState) : Outcome Renderer :=
  match state.registry.resolve world.hierarchy (world.heap.typeOf value) with
  | (.error fault, registry) => (.error fault, { state with registry := registry })
  | (.ok resolution, registry) =>
    let state := { state with registry := registry }
    match resolution with
    | .intrinsic => (.ok value.carried, state)
    | .method method => (.ok (.custom fun _ => method.effect value), state)
    | .provider (.scalar kind) => (.ok (.ruled kind value.subject), state)
    | .provider (.custom provider) =>
      bindPrepared bindAsked (provider.preparation world.heap value) state
    | .provider (.sequence guard) => bindSequence world.heap bindElements guard value state

/-- Bind a value with room for a given depth of sequences inside each other. -/
def bindWithin (world : World) (bindAsked : Value → BindingState → Outcome Renderer) :
    Nat → Value → BindingState → Outcome Renderer
  | 0 => bindStep world bindAsked fun _ state => (.error .nestingTooDeep, state)
  | room + 1 => bindStep world bindAsked (bindAll (bindWithin world bindAsked room))

/-- The depth of a text: the text, and one of its characters.  A character that can be known again is
then a placeholder, and one that cannot has no end. -/
def textDepth : Nat := 2

/-- A depth that no value with an end exceeds: on the way down, no provider meets a container twice,
and nothing but its characters is found inside a text. -/
def depthBound (world : World) (registry : Registry) : Nat :=
  registry.providers.guards.length * world.heap.size + textDepth

/-- Bind a value while only so many more preparations can be under way. -/
def bindNested (world : World) : Nat → Value → BindingState → Outcome Renderer
  | 0, _, state => (.error .nestingTooDeep, state)
  | nesting + 1, value, state =>
    bindWithin world (bindNested world nesting) (depthBound world state.registry) value state

def bind (world : World) : Value → BindingState → Outcome Renderer :=
  bindNested world (world.nesting + 1)

/-- Bind an argument of a session.  A wrapper is used as it is; every other value is bound. -/
def bindArgument (world : World) (value : Value) (state : BindingState) : Outcome Renderer :=
  match value with
  | .wrapper renderer => (.ok renderer, state)
  | value => bind world value state

def bindArguments (world : World) : List Value → BindingState → Outcome (List Renderer) :=
  bindAll (bindArgument world)

end Binding
end FieldText
