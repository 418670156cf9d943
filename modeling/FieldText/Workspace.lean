import FieldText.Binding
import FieldText.Config.Basic
import FieldText.Conversion
import FieldText.Session

/-!
A workspace holds everything that outlives a single call: containers, declared types, registries, the
guards of sequence providers, remembered parses, the settings that sessions share, and the notices
left so far.  Every operation is a step from workspace to workspace that can end in a fault; the
changes made up to the fault stay.  What the workspace takes from its host stays the same all the time.
-/

namespace FieldText

/-- Settings of sessions.  The measure is kept as a word, which is looked up whenever a session is
opened. -/
structure Settings where
  strict : Bool
  measure : Text
  deriving DecidableEq, Repr

/-- What a workspace takes from where it runs: the measure by cells, how many preparations can be under way
inside another one, and the full names of types. -/
structure Host where
  cells : Measure
  nesting : Nat
  typeName : ArgumentType → Text

/-- All lasting state. -/
structure Workspace where
  host : Host
  heap : Heap
  hierarchy : Hierarchy
  /-- The registries by number; the first one is the default. -/
  registries : List Registry
  nextGuard : Nat
  nextSerial : Nat
  busy : List (Nat × Identity)
  cache : Format.Cache
  settings : List Settings
  environment : Environment
  notices : List Notice

/-- A session, and what sessions derived from it share with it. -/
structure OpenSession where
  session : Session
  registry : Option Nat
  settings : Nat

namespace Workspace

/-- The workspace at the start: one registry, with the built-in providers. -/
def initial (host : Host) (environment : Environment) : Workspace where
  host := host
  heap := Heap.empty
  hierarchy := Hierarchy.empty
  registries := [Registry.builtin 0]
  nextGuard := 1
  nextSerial := 0
  busy := []
  cache := Format.Cache.empty
  settings := []
  environment := environment
  notices := []

/-- A step that changes the workspace and yields a value or ends in a fault. -/
abbrev Action (α : Type) := ExceptT Fault (StateM Workspace) α

def defaultRegistry : Nat := 0

def registry (workspace : Workspace) (number : Nat) : Registry :=
  (workspace.registries[number]?).getD Registry.empty

def setRegistry (workspace : Workspace) (number : Nat) (registry : Registry) : Workspace :=
  { workspace with registries := workspace.registries.set number registry }

def world (workspace : Workspace) : World :=
  ⟨workspace.heap, workspace.hierarchy, workspace.host.nesting⟩

def measure? (workspace : Workspace) (word : Text) : Option Measure :=
  Measure.ofName? workspace.host.cells word

def noteAll (notices : List Notice) : Action Unit :=
  modify fun workspace => { workspace with notices := workspace.notices ++ notices }

/-! ## Binding in a workspace -/

/-- Run a step of binding with one of the registries. -/
def runBinding {α : Type} (number : Nat)
    (step : World → BindingState → Except Fault α × BindingState) : Action α := do
  let workspace ← get
  let (outcome, state) := step workspace.world ⟨workspace.registry number, workspace.busy, []⟩
  set { workspace.setRegistry number state.registry with
    busy := state.busy
    notices := workspace.notices ++ state.notices }
  ExceptT.mk (pure outcome)

def bind (number : Nat) (value : Value) : Action Renderer :=
  runBinding number fun world => Binding.bind world value

/-- Bind a value unless it is a wrapper already. -/
def wrap (number : Option Nat) (value : Value) : Action Renderer :=
  runBinding (number.getD defaultRegistry) fun world => Binding.bindArgument world value

def wrapAll (number : Option Nat) (values : List Value) : Action (List Renderer) :=
  runBinding (number.getD defaultRegistry) fun world => Binding.bindArguments world values

/-- Resolve the type of a value and use what it resolves to at once, without binding it.  A sequence
provider that is used in this way binds the elements in the default registry. -/
def useDirectly (number : Nat) (value : Value) (options : Text) : Action Rendering := do
  let resolution ← runBinding number fun world state =>
    let (outcome, registry) := state.registry.resolve world.hierarchy (world.heap.typeOf value)
    (outcome, { state with registry := registry })
  match resolution with
  | .intrinsic => pure (value.carried.render (← get).heap.occupancy options)
  | .method method => pure (method.effect value options)
  | .provider (.scalar kind) => pure (kind.render (← get).heap.occupancy value.subject options)
  | .provider (.custom provider) => pure (provider.effect value options)
  | .provider (.sequence guard) =>
    let renderer ← runBinding defaultRegistry fun world state =>
      Binding.bindSequence world.heap (Binding.bindAll (Binding.bind world)) guard value state
    pure (renderer.render (← get).heap.occupancy options)

/-! ## Making values -/

/-- Add a container and refer to it. -/
def allocate (container : Container) : Action Value := do
  let workspace ← get
  set { workspace with heap := workspace.heap.push container }
  pure (.container workspace.heap.size)

def fill (place : Nat) (elements : List Value) : Action Unit :=
  modify fun workspace =>
    { workspace with heap := workspace.heap.modify place (Container.withElements elements) }

/-- Add an element at the end of a list. -/
def append (list : Value) (element : Value) : Action Unit := do
  match list with
  | .container place =>
    match (← get).heap.get? place with
    | some container =>
      if container.content.isList then fill place (container.elements ++ [element])
      else throw .notAList
    | none => throw .notAList
  | _ => throw .notAList

/-- Wrap a value, so that it is used as it was bound now. -/
def makeWrapper (number : Option Nat) (value : Value) : Action Value := do
  pure (.wrapper (← wrap number value))

def makePadded (number : Option Nat) (value : Value) (left right : Int) : Action Value := do
  pure (.adapter (.padded (← wrap number value) left right))

def makeRepeated (number : Option Nat) (value : Value) (count : Int) : Action Value := do
  pure (.adapter (.repeated (← wrap number value) count))

/-- Give a value a layout of its own. -/
def makeAligned (number : Option Nat) (value : Value) (alignment : Text) (amount : Int) (pad : Text)
    (measure : Text) : Action Value := do
  let item ← wrap number value
  match Alignment.ofName? alignment with
  | none => throw .unknownAlignment
  | some alignment =>
    match (← get).measure? measure with
    | none => throw .unknownMeasure
    | some measure => pure (.adapter (.aligned item alignment amount pad measure))

/-- Put a value into the bare adapter. -/
def makeUnlaid (number : Option Nat) (value : Value) : Action Value := do
  pure (.adapter (.unlaid (← wrap number value)))

/-! ## Declared types -/

/-- Declare a type under a name. -/
def declare (name : Text) (bases : List ArgumentType) (own : ArgumentType → OwnMethod)
    (metatype : Metatype) : Action ArgumentType := do
  let workspace ← get
  let type := ArgumentType.declared workspace.nextSerial name
  match workspace.hierarchy.declare type bases (own type) metatype with
  | .error fault => throw fault
  | .ok hierarchy =>
    set { workspace with hierarchy := hierarchy, nextSerial := workspace.nextSerial + 1 }
    pure type

def setMethod (type : ArgumentType) (own : OwnMethod) : Action Unit :=
  modify fun workspace => { workspace with hierarchy := workspace.hierarchy.setOwn type own }

/-- Convert the value that an instance is made from, or start with a blank content. -/
def contentFrom {α : Type} (source : Option Value) (blank : α)
    (convert : Heap → Value → Except Fault α) : Action α := do
  match source with
  | none => pure blank
  | some value => ExceptT.mk (pure (convert (← get).heap value))

/-- Make an instance of a declared type.  A type that extends one with content takes its content from
the given value, or starts with none; any other type makes no use of a value. -/
def instantiate (type : ArgumentType) (source : Option Value) : Action Value := do
  let contentType :=
    (((← get).hierarchy.linearization type).find? Hierarchy.fixesContent).getD .object
  match contentType with
  | .integer => return .scalar type (.integer (← contentFrom source 0 Conversion.toInteger))
  | .float =>
    return .scalar type (.float (← contentFrom source (Double.zero false) Conversion.toFloat))
  | .text => return .scalar type (.text (← contentFrom source [] Display.value))
  | .list => allocate ⟨type, .list (← contentFrom source [] Conversion.toElements)⟩
  | .tuple => allocate ⟨type, .tuple (← contentFrom source [] Conversion.toElements)⟩
  | .dictionary =>
    allocate ⟨type, .collection .dictionary (← contentFrom source [] Conversion.toKeys)⟩
  | .bytes => allocate ⟨type, .collection .bytes (← contentFrom source [] Conversion.toBytes)⟩
  | _ =>
    match source with
    | none => pure (.plain type)
    | some _ => throw .unsuitableValue

def rendersItself (workspace : Workspace) (value : Value) : Bool :=
  (workspace.hierarchy.instanceMethod (workspace.heap.typeOf value)).isCallable

/-! ## Registries -/

def addRegistry (registry : Registry) : Action Nat := do
  let workspace ← get
  set { workspace with registries := workspace.registries ++ [registry] }
  pure workspace.registries.length

/-- A sequence provider with a guard of its own. -/
def newSequenceProvider : Action Provider := do
  let workspace ← get
  set { workspace with nextGuard := workspace.nextGuard + 1 }
  pure (.sequence workspace.nextGuard)

/-- Add a registry with the built-in providers, each of which is noted. -/
def addBuiltinRegistry : Action Nat := do
  let workspace ← get
  set { workspace with nextGuard := workspace.nextGuard + 1 }
  let providers := Registry.builtinProviders workspace.nextGuard
  noteAll (providers.map fun entry => .registered entry.1)
  addRegistry ⟨providers, []⟩

def addCopy (number : Nat) : Action Nat := do
  addRegistry ((← get).registry number).copy

def register (number : Nat) (type : ArgumentType) (provider : Provider) : Action Unit := do
  modify fun workspace =>
    workspace.setRegistry number ((workspace.registry number).register type provider)
  noteAll [.registered type]

def unregister (number : Nat) (type : ArgumentType) : Action Unit :=
  modify fun workspace => workspace.setRegistry number ((workspace.registry number).unregister type)

def resolve (number : Nat) (type : ArgumentType) : Action Resolution :=
  runBinding number fun world state =>
    let (outcome, registry) := state.registry.resolve world.hierarchy type
    (outcome, { state with registry := registry })

/-! ## Sessions -/

/-- Parse a format string, or find the result of an earlier parse. -/
def parse (mode : Mode) (format : Text) : Action ParsedItems := do
  let workspace ← get
  let (reading, cache) := workspace.cache.parse mode format
  set { workspace with cache := cache, notices := workspace.notices ++ reading.notices }
  match reading.result with
  | .error malformation => throw (.malformedFormat malformation)
  | .ok parsed => pure parsed

def addSettings (settings : Settings) : Action Nat := do
  let workspace ← get
  set { workspace with settings := workspace.settings ++ [settings] }
  pure workspace.settings.length

def settingsOf (workspace : Workspace) (number : Nat) : Settings :=
  (workspace.settings[number]?).getD ⟨false, Measure.Kind.chars.name⟩

/-- The settings of a session for which none are given. -/
def defaultSettings (workspace : Workspace) : Settings :=
  let config := Config.fresh workspace.environment
  ⟨config.parsing.strict, config.render.measure.name⟩

def changeSettings (number : Nat) (change : Settings → Settings) : Action Unit :=
  modify fun workspace => { workspace with settings := workspace.settings.modify number change }

/-- Put bound arguments and items together, with the measure that the settings select now. -/
def assemble (format : Text) (arguments : List Renderer) (registry : Option Nat) (settings : Nat)
    (parsed : ParsedItems) : Action OpenSession := do
  let workspace ← get
  match workspace.measure? (workspace.settingsOf settings).measure with
  | none => throw .unknownMeasure
  | some measure => pure ⟨⟨format, parsed, measure, arguments⟩, registry, settings⟩

/-- Open a session: bind the arguments, then parse the format string, then select the measure.  Items
that were parsed before can be given in place of parsing. -/
def openSession (format : Text) (values : List Value) (given : Option Settings)
    (registry : Option Nat) (items : Option ParsedItems) : Action OpenSession := do
  let arguments ← wrapAll registry values
  let settings ← addSettings (given.getD (← get).defaultSettings)
  let parsed ←
    match items with
    | some items => pure items
    | none => parse (Mode.ofStrict ((← get).settingsOf settings).strict) format
  assemble format arguments registry settings parsed

/-- Open a session that shares the items, the settings and the registry of another one. -/
def withArguments (origin : OpenSession) (values : List Value) : Action OpenSession := do
  let arguments ← wrapAll origin.registry values
  assemble origin.session.format arguments origin.registry origin.settings origin.session.parsed

def setVariable (name value : Text) : Action Unit :=
  modify fun workspace => { workspace with environment := (name, value) :: workspace.environment }

/-! ## Rendering -/

/-- Add the notices of a rendering to those left so far. -/
def witness (rendering : Rendering) : Action Unit := noteAll rendering.notices

/-- Render a bound value, with containers as they are now, and leave its notices. -/
def render (renderer : Renderer) (options : Text) : Action Rendering := do
  let rendering := renderer.render (← get).heap.occupancy options
  witness rendering
  pure rendering

/-- Render a session, with containers as they are now, and leave its notices. -/
def renderSession (opened : OpenSession) : Action Rendering := render opened.session.renderer []

end Workspace
end FieldText
