import FieldText.Value

/-!
The hierarchy of types.  Every type has a linearization: itself, then the types it extends, each
before the types that it extends in turn, and the object type last.  Declared types are linearized by
merging the linearizations of their bases in a way that keeps the order of each; when no such merge
exists the type cannot be declared.  Adapters and sessions have a method of rendering.  A declared type
can bring its own, and can also take the method of its bases away.  A type is a value itself, so its own
type, the metatype, may also have something to say about the method that is found for it.
-/

namespace FieldText

/-- A rendering method that a declared type brings. -/
structure Method where
  owner : ArgumentType
  label : Text
  effect : Value → Text → Rendering

/-- What a type says itself about its method. -/
inductive OwnMethod where
  | unset
  | disabled
  /-- The values of the type carry their renderer. -/
  | carried
  | defined (method : Method)

namespace OwnMethod

/-- Whether a type says anything about a method. -/
def isSaid : OwnMethod → Bool
  | unset => false
  | _ => true

def isCallable : OwnMethod → Bool
  | carried => true
  | defined _ => true
  | _ => false

/-- What the first says, or else what the second says. -/
def orElse : OwnMethod → OwnMethod → OwnMethod
  | unset, second => second
  | first, _ => first

end OwnMethod

/-- What a metatype says about the method of its types.  An attribute that controls access to itself goes
before everything that the types say, and any other comes after all of it. -/
structure Metatype where
  before : OwnMethod
  after : OwnMethod

def Metatype.plain : Metatype := ⟨.unset, .unset⟩

structure Declaration where
  linearization : List ArgumentType
  own : OwnMethod
  metatype : Metatype

/-! ## Merging linearizations -/

namespace Linearization

/-- Whether a type may come next: it stands behind the front of no order. -/
def isFree (orders : List (List ArgumentType)) (type : ArgumentType) : Bool :=
  orders.all fun order => !order.tail.contains type

/-- The first front that may come next. -/
def next? (orders : List (List ArgumentType)) : Option ArgumentType :=
  (orders.filterMap List.head?).find? (isFree orders)

/-- Take a type off the front of an order. -/
def advance (type : ArgumentType) (order : List ArgumentType) : List ArgumentType :=
  if order.head? = some type then order.tail else order

/-- Merge orders with at most the given number of types in the result. -/
def mergeWithin : Nat → List (List ArgumentType) → Option (List ArgumentType)
  | 0, orders => if orders.all List.isEmpty then some [] else none
  | room + 1, orders =>
    if orders.all List.isEmpty then some []
    else
      (next? orders).bind fun type =>
        (mergeWithin room (orders.map (advance type))).map fun rest => type :: rest

/-- Merge orders into one that keeps the order of each, if there is one. -/
def merge (orders : List (List ArgumentType)) : Option (List ArgumentType) :=
  mergeWithin orders.flatten.length orders

end Linearization

/-! ## Declared types -/

/-- The declared types, with what is known of each. -/
structure Hierarchy where
  declarations : List (ArgumentType × Declaration)

namespace Hierarchy

def empty : Hierarchy := ⟨[]⟩

def declaration? (hierarchy : Hierarchy) (type : ArgumentType) : Option Declaration :=
  hierarchy.declarations.lookup type

/-- The linearization of a type. -/
def linearization (hierarchy : Hierarchy) (type : ArgumentType) : List ArgumentType :=
  match hierarchy.declaration? type with
  | some declaration => declaration.linearization
  | none =>
    match type with
    | .object => [.object]
    | .boolean => [.boolean, .integer, .object]
    | _ => [type, .object]

/-- What a type says itself about its method. -/
def own (hierarchy : Hierarchy) (type : ArgumentType) : OwnMethod :=
  match hierarchy.declaration? type with
  | some declaration => declaration.own
  | none =>
    match type with
    | .adapter => .carried
    | .session => .carried
    | _ => .unset

/-- The method of the first type in a linearization that says anything about one.  A method that was
taken away hides those behind it. -/
def methodAlong (hierarchy : Hierarchy) : List ArgumentType → OwnMethod
  | [] => .unset
  | type :: rest => (hierarchy.own type).orElse (hierarchy.methodAlong rest)

/-- The rendering method that the values of a type have. -/
def instanceMethod (hierarchy : Hierarchy) (type : ArgumentType) : OwnMethod :=
  hierarchy.methodAlong (hierarchy.linearization type)

def metatype (hierarchy : Hierarchy) (type : ArgumentType) : Metatype :=
  ((hierarchy.declaration? type).map Declaration.metatype).getD .plain

/-- The rendering method that is found when the type itself is asked for one. -/
def method (hierarchy : Hierarchy) (type : ArgumentType) : OwnMethod :=
  (hierarchy.metatype type).before.orElse
    ((hierarchy.instanceMethod type).orElse (hierarchy.metatype type).after)

/-- Whether a type can be extended at all. -/
def isExtensible : ArgumentType → Bool
  | .boolean => false
  | .range => false
  | .absent => false
  | _ => true

/-- Whether a type fixes what its values are made of. -/
def fixesContent : ArgumentType → Bool
  | .object => false
  | .declared _ _ => false
  | _ => true

/-- Whether the values of a type hold their content in place, in as much room as it takes. -/
def holdsInPlace : ArgumentType → Bool
  | .integer => true
  | .tuple => true
  | .bytes => true
  | _ => false

/-- The type in a linearization that fixes how values are stored, if there is one.  It is the type that
fixes their content, unless that is held in place: then whatever a declared type adds has to go
elsewhere, and the first type that was declared as an extension fixes where. -/
def storage? (hierarchy : Hierarchy) (linearization : List ArgumentType) : Option ArgumentType :=
  (linearization.find? fixesContent).map fun content =>
    let extensions := linearization.filter fun type =>
      type ≠ content && (hierarchy.linearization type).contains content
    if holdsInPlace content then extensions.getLast?.getD content else content

def areComparable (hierarchy : Hierarchy) (first second : ArgumentType) : Bool :=
  (hierarchy.linearization first).contains second ||
    (hierarchy.linearization second).contains first

/-- Declare a type with the given bases; without bases it extends the object type.  Of the types that
fix how the values of the bases are stored, each two have to be comparable. -/
def declare (hierarchy : Hierarchy) (type : ArgumentType) (bases : List ArgumentType)
    (own : OwnMethod) (metatype : Metatype) : Except Fault Hierarchy :=
  let bases := if bases.isEmpty then [.object] else bases
  let orders := bases.map hierarchy.linearization
  let storages := orders.filterMap hierarchy.storage?
  let compatible := storages.all fun first => storages.all (hierarchy.areComparable first)
  if !bases.all isExtensible || !compatible || bases.eraseDups.length < bases.length then
    .error .incompatibleBases
  else
    match Linearization.merge (orders ++ [bases]) with
    | none => .error .incompatibleBases
    | some merged => .ok ⟨(type, ⟨type :: merged, own, metatype⟩) :: hierarchy.declarations⟩

def setOwn (hierarchy : Hierarchy) (type : ArgumentType) (own : OwnMethod) : Hierarchy :=
  ⟨hierarchy.declarations.map fun entry =>
    if entry.1 = type then (type, { entry.2 with own := own }) else entry⟩

end Hierarchy
end FieldText
