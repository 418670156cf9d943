import FieldText.Renderer

/-!
Values before they are bound.  Containers are shared and can be changed in place, so a value refers
to a container by its place in a heap, and a container may reach itself.  Adapters, nested sessions
and wrappers hold the renderers that were bound when they were made.
-/

namespace FieldText

/-- An argument, or an element of a container. -/
inductive Value where
  /-- A scalar, possibly of a declared type that extends the type of its content. -/
  | scalar (type : ArgumentType) (content : Scalar)
  /-- A complex number, which only the rules for scalars know anything about. -/
  | complex (real imaginary : Double)
  /-- A container, by its place in the heap. -/
  | container (place : Nat)
  /-- A value without content that the library knows. -/
  | plain (type : ArgumentType)
  /-- An adapter around a bound item. -/
  | adapter (renderer : Renderer)
  /-- A session used as an argument. -/
  | session (renderer : Renderer)
  /-- A value that was bound before, to be used as it is. -/
  | wrapper (renderer : Renderer)

namespace Value

/-- What the rules for scalars see of a value. -/
def subject : Value → Subject
  | scalar _ content => .scalar content
  | complex real imaginary => .complex real imaginary
  | container place => .container place
  | plain type => .plain (type != .absent)
  | _ => .plain true

/-- The values that a text consists of: its characters, each as a text. -/
def letters (content : Text) : List Value := content.map fun c => scalar .text (.text [c])

end Value

/-! ## Ranges -/

def rangeLength (start stop step : Int) : Nat :=
  if 0 < step then ((stop - start + step - 1) / step).toNat
  else if step < 0 then ((start - stop - step - 1) / (-step)).toNat
  else 0

/-- The integers of a range: from a start up to a stop, or down to it when the step is negative. -/
def rangeElements (start stop step : Int) : List Int :=
  (List.range (rangeLength start stop step)).map fun (k : Nat) => start + step * (k : Int)

/-! ## Containers -/

/-- The kinds of containers that no provider is built in for. -/
inductive Container.Kind where
  | dictionary
  | set
  | bytes
  deriving DecidableEq, Repr

/-- What a container holds.  The integers of a range are not made before they are asked for. -/
inductive Container.Content where
  | list (elements : List Value)
  | tuple (elements : List Value)
  | range (start stop step : Int)
  /-- What is met when another container is walked through: keys, members, or the numbers of bytes. -/
  | collection (kind : Container.Kind) (elements : List Value)

/-- A container: its type, which may extend the type that belongs to its content, and the content. -/
structure Container where
  type : ArgumentType
  content : Container.Content

namespace Container

namespace Content

def elements : Content → List Value
  | list elements => elements
  | tuple elements => elements
  | range start stop step =>
    (rangeElements start stop step).map fun i => Value.scalar .integer (.integer i)
  | collection _ elements => elements

def isOccupied : Content → Bool
  | range start stop step => rangeLength start stop step != 0
  | content => !content.elements.isEmpty

def withElements (elements : List Value) : Content → Content
  | list _ => list elements
  | tuple _ => tuple elements
  | collection kind _ => collection kind elements
  | range start stop step => range start stop step

def isList : Content → Bool
  | list _ => true
  | _ => false

end Content

def elements (container : Container) : List Value := container.content.elements

/-- A container of a kind that no provider is built in for. -/
def ofKind (kind : Kind) (elements : List Value) : Container :=
  let type : ArgumentType :=
    match kind with
    | .dictionary => .dictionary
    | .set => .set
    | .bytes => .bytes
  ⟨type, .collection kind elements⟩

def withElements (elements : List Value) (container : Container) : Container :=
  { container with content := container.content.withElements elements }

end Container

structure Heap where
  containers : List Container

namespace Heap

def empty : Heap := ⟨[]⟩

def size (heap : Heap) : Nat := heap.containers.length

def get? (heap : Heap) (place : Nat) : Option Container := heap.containers[place]?

/-- Add a container; its place is the old size. -/
def push (heap : Heap) (container : Container) : Heap := ⟨heap.containers ++ [container]⟩

def modify (heap : Heap) (place : Nat) (change : Container → Container) : Heap :=
  ⟨heap.containers.modify place change⟩

def occupancy (heap : Heap) : Occupancy := fun place =>
  match heap.get? place with
  | some container => container.content.isOccupied
  | none => false

/-- The type of a value. -/
def typeOf (heap : Heap) : Value → ArgumentType
  | .scalar type _ => type
  | .complex _ _ => .complex
  | .container place => ((heap.get? place).map Container.type).getD .object
  | .plain type => type
  | .adapter _ => .adapter
  | .session _ => .session
  | .wrapper _ => .wrapper

/-- What stands for a value inside itself. -/
def placeholder (heap : Heap) : Value → Text
  | .container place =>
    match (heap.get? place).map Container.content with
    | some (.tuple _) => ['(', '.', '.', '.', ')']
    | _ => ['[', '.', '.', '.', ']']
  | _ => ['[', '.', '.', '.', ']']

/-- The elements of a value that has any: those of a container, and the characters of a text. -/
def elements? (heap : Heap) : Value → Option (List Value)
  | .container place => (heap.get? place).map Container.elements
  | .scalar _ (.text content) => some (Value.letters content)
  | _ => none

end Heap

namespace Scalar

/-- The type that a scalar has by itself. -/
def type : Scalar → ArgumentType
  | text _ => .text
  | boolean _ => .boolean
  | integer _ => .integer
  | float _ => .float

end Scalar
end FieldText
