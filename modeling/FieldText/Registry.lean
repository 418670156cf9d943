import FieldText.Hierarchy

/-!
Registries assign providers to types.  A type is resolved to its own method if it has one, and
otherwise to the provider of the first type in its linearization that has one.  A registry remembers
what it resolved until one of its providers changes; `Registry.lookup` is the answer without memory,
and the memory is never consulted in any other way than through `Registry.resolve`.
-/

namespace FieldText

/-- What a provider does while a value is bound: it gives the effect that the value will have, or it fails,
or it has another value bound in the same registry and goes on with what has become of it. -/
inductive Preparation where
  | ready (effect : Occupancy → Text → Rendering)
  | failed (fault : Fault)
  | bind (value : Value) (next : Except Fault Renderer → Preparation)

/-- A provider that the library knows nothing about but what it does.  It can be called with a value, and it
may have a way to prepare a value when that is bound. -/
structure CustomProvider where
  label : Text
  effect : Value → Text → Rendering
  prepare : Option (Heap → Value → Preparation)

/-- What a provider does while a value is bound.  Without a way to prepare the value, it is called later. -/
def CustomProvider.preparation (provider : CustomProvider) (heap : Heap) (value : Value) : Preparation :=
  match provider.prepare with
  | some prepare => prepare heap value
  | none => .ready fun _ => provider.effect value

/-- How values of a type are rendered. -/
inductive Provider where
  /-- The built-in rule for a kind of scalars, for values of any type. -/
  | scalar (kind : ScalarKind)
  /-- Containers, element by element.  Each sequence provider guards against recursion on its own, and
  is known by the number of its guard. -/
  | sequence (guard : Nat)
  | custom (provider : CustomProvider)

inductive Resolution where
  /-- The value carries its renderer. -/
  | intrinsic
  | method (method : Method)
  | provider (provider : Provider)

/-- An assignment of providers to types, in order of assignment. -/
abbrev ProviderMap := List (ArgumentType × Provider)

namespace ProviderMap

/-- Assign a provider to a type, in the place of an earlier assignment if there is one. -/
def assign (type : ArgumentType) (provider : Provider) : ProviderMap → ProviderMap
  | [] => [(type, provider)]
  | entry :: rest =>
    if entry.1 = type then (type, provider) :: rest else entry :: assign type provider rest

def remove (type : ArgumentType) (providers : ProviderMap) : ProviderMap :=
  providers.filter fun entry => entry.1 ≠ type

/-- The provider of the first type of a linearization that has one. -/
def firstAlong (providers : ProviderMap) (linearization : List ArgumentType) : Option Provider :=
  linearization.findSome? fun type => providers.lookup type

/-- The guards of the sequence providers, with repetitions. -/
def guards (providers : ProviderMap) : List Nat :=
  providers.filterMap fun entry =>
    match entry.2 with
    | .sequence guard => some guard
    | _ => none

end ProviderMap

/-- Providers, and what types were resolved to since the providers last changed. -/
structure Registry where
  providers : ProviderMap
  resolved : List (ArgumentType × Resolution)

namespace Registry

def empty : Registry := ⟨[], []⟩

def register (registry : Registry) (type : ArgumentType) (provider : Provider) : Registry :=
  ⟨registry.providers.assign type provider, []⟩

def unregister (registry : Registry) (type : ArgumentType) : Registry :=
  ⟨registry.providers.remove type, []⟩

/-- A registry with the same providers, which has resolved nothing yet. -/
def copy (registry : Registry) : Registry := ⟨registry.providers, []⟩

def contains (registry : Registry) (type : ArgumentType) : Bool :=
  (registry.providers.lookup type).isSome

/-- What a type resolves to under given providers, without memory. -/
def lookup (hierarchy : Hierarchy) (providers : ProviderMap) (type : ArgumentType) :
    Option Resolution :=
  match hierarchy.method type with
  | .carried => some .intrinsic
  | .defined method => some (.method method)
  | _ => (providers.firstAlong (hierarchy.linearization type)).map Resolution.provider

/-- Resolve a type.  The first answer for a type is remembered; a failure is not. -/
def resolve (registry : Registry) (hierarchy : Hierarchy) (type : ArgumentType) :
    Except Fault Resolution × Registry :=
  match registry.resolved.lookup type with
  | some resolution => (.ok resolution, registry)
  | none =>
    match lookup hierarchy registry.providers type with
    | none => (.error (.unsupportedType type), registry)
    | some resolution =>
      (.ok resolution, { registry with resolved := (type, resolution) :: registry.resolved })

/-- The built-in providers, with one sequence provider for all kinds of containers. -/
def builtinProviders (guard : Nat) : ProviderMap :=
  [(.text, .scalar .text), (.boolean, .scalar .boolean), (.integer, .scalar .integer),
    (.float, .scalar .float), (.list, .sequence guard), (.tuple, .sequence guard),
    (.range, .sequence guard)]

def builtin (guard : Nat) : Registry := ⟨builtinProviders guard, []⟩

end Registry
end FieldText
