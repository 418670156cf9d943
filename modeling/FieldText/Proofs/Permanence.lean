import FieldText.Proofs.Resolutions
import FieldText.Proofs.Texts

/-!
A session that was opened stays as it is.  All types were resolved when its arguments were bound, at
every depth, so no registry is asked when it is rendered, and nothing that happens to registries
afterwards makes a difference.  In particular no provider can be missed any more.

What effects of providers and methods do is not known.  An effect that asks a registry itself is the one
exception, so it is assumed of all effects that can come into play that they do not end for want of a
provider.
-/

namespace FieldText

/-! ## Renderings that want no provider -/

namespace Rendering

/-- A rendering that does not end for want of a provider. -/
abbrev WantsNoProvider (rendering : Rendering) : Prop := rendering.FailsOnly Fault.IsOther

end Rendering

open Rendering

theorem Fault.isOther_of_isOverrun (fault : Fault) (isOverrun : fault.IsOverrun) : fault.IsOther := by
  rcases isOverrun with rfl
  trivial

/-! ## Scalars -/

theorem Count.writesAtOnce_withCount {family : CountedOptions} {text : Text}
    {next : Option Nat → Rendering} (writes : ∀ count, (next count).WritesAtOnce Fault.IsOther) :
    (Count.withCount family text next).WritesAtOnce Fault.IsOther := by
  unfold Count.withCount
  split
  · exact writes _
  · exact writes _
  · exact .fail trivial
  · exact .note _ (writes _)

namespace IntegerStyle

theorem isOther_of_digits {magnitude : Nat} {style : IntegerStyle} {fault : Fault}
    (fails : style.digits magnitude = .error fault) : fault.IsOther := by
  unfold digits at fails
  split at fails
  · split at fails <;> cases fails
    trivial
  · cases fails
  · cases fails

theorem isOther_of_shortestDigits {value : Double} {style : IntegerStyle} {fault : Fault}
    (fails : style.shortestDigits value = .error fault) : fault.IsOther := by
  unfold shortestDigits at fails
  split at fails <;> cases fails
  trivial

theorem writesAtOnce_write {digitsIn : IntegerStyle → Except Fault Text}
    (others : ∀ style fault, digitsIn style = .error fault → fault.IsOther) (negative : Bool)
    (options : Text) : (write negative digitsIn options).WritesAtOnce Fault.IsOther :=
  writesAtOnce_ofExcept (others _) fun _ => Count.writesAtOnce_withCount fun _ =>
    writesAtOnce_ofExcept
      (fun fault fails => fault.isOther_of_isOverrun (Repetition.isOverrun_of_padLeft fails))
      fun _ => .write _

end IntegerStyle

namespace FloatStyle

theorem writesAtOnce_select {next : FloatStyle → Nat → Rendering}
    (writes : ∀ style places, (next style places).WritesAtOnce Fault.IsOther) (options : Text) :
    (select options next).WritesAtOnce Fault.IsOther := by
  unfold select
  exact Count.writesAtOnce_withCount fun _ => writes _ _

theorem writesAtOnce_writeWithin (places : Nat) (text : Nat → Text) :
    (writeWithin places text).WritesAtOnce Fault.IsOther := by
  unfold writeWithin
  split
  · exact .fail trivial
  · exact .write _

end FloatStyle

namespace Subject

theorem writesAtOnce_renderAsText (subject : Subject) (options : Text) :
    (subject.renderAsText options).WritesAtOnce Fault.IsOther := by
  unfold renderAsText
  split
  · exact Count.writesAtOnce_withCount fun _ => .write _
  · exact Count.writesAtOnce_withCount fun _ => .fail trivial

theorem writesAtOnce_renderAsInteger (subject : Subject) (options : Text) :
    (subject.renderAsInteger options).WritesAtOnce Fault.IsOther := by
  unfold renderAsInteger
  split
  · exact IntegerStyle.writesAtOnce_write (fun _ _ => IntegerStyle.isOther_of_digits) _ _
  · exact IntegerStyle.writesAtOnce_write (fun _ _ => IntegerStyle.isOther_of_digits) _ _
  · exact IntegerStyle.writesAtOnce_write (fun _ _ => IntegerStyle.isOther_of_shortestDigits) _ _
  · exact .fail trivial

theorem writesAtOnce_renderIntegerAsFloat (value : Int) (options : Text) :
    (Scalar.renderIntegerAsFloat value options).WritesAtOnce Fault.IsOther := by
  refine FloatStyle.writesAtOnce_select (fun style places => ?_) options
  split
  · exact .fail trivial
  · dsimp only
    split
    · exact FloatStyle.writesAtOnce_writeWithin _ _
    · exact .fail trivial

theorem writesAtOnce_renderAsFloat (subject : Subject) (options : Text) :
    (subject.renderAsFloat options).WritesAtOnce Fault.IsOther := by
  unfold renderAsFloat
  split
  · exact FloatStyle.writesAtOnce_select (fun _ _ => FloatStyle.writesAtOnce_writeWithin _ _) _
  · exact writesAtOnce_renderIntegerAsFloat _ _
  · exact writesAtOnce_renderIntegerAsFloat _ _
  · refine FloatStyle.writesAtOnce_select (fun _ _ => ?_) options
    exact .fail trivial
  · exact FloatStyle.writesAtOnce_select (fun _ _ => FloatStyle.writesAtOnce_writeWithin _ _) _
  · refine FloatStyle.writesAtOnce_select (fun _ _ => ?_) options
    exact .fail trivial

end Subject

theorem Scalar.writesAtOnce_renderBoolean (value : Bool) (options : Text) :
    (Scalar.renderBoolean value options).WritesAtOnce Fault.IsOther := by
  unfold Scalar.renderBoolean
  dsimp only
  split
  · exact .write _
  · exact .note _ (.write _)

/-- The rules for scalars ask no registry, and write nothing that is not complete. -/
theorem ScalarKind.writesAtOnce_render (occupancy : Occupancy) (kind : ScalarKind) (subject : Subject)
    (options : Text) : (kind.render occupancy subject options).WritesAtOnce Fault.IsOther := by
  cases kind with
  | text => exact subject.writesAtOnce_renderAsText options
  | boolean => exact Scalar.writesAtOnce_renderBoolean _ options
  | integer => exact subject.writesAtOnce_renderAsInteger options
  | float => exact subject.writesAtOnce_renderAsFloat options

/-! ## Renderers that ask no registry -/

namespace Renderer

/-- A renderer inside of which no effect ends for want of a provider. -/
inductive AsksNoRegistry : Renderer → Prop where
  | ruled (kind : ScalarKind) (subject : Subject) : AsksNoRegistry (.ruled kind subject)
  | custom {effect : Occupancy → Text → Rendering}
      (wants : ∀ occupancy options, (effect occupancy options).WantsNoProvider) :
      AsksNoRegistry (.custom effect)
  | placeholder (text : Text) : AsksNoRegistry (.placeholder text)
  | sequence {elements : List Renderer} (asks : ∀ element ∈ elements, AsksNoRegistry element) :
      AsksNoRegistry (.sequence elements)
  | aligned {item : Renderer} (asks : AsksNoRegistry item) (alignment : Alignment) (amount : Int)
      (pad : Text) (measure : Measure) : AsksNoRegistry (.aligned item alignment amount pad measure)
  | padded {item : Renderer} (asks : AsksNoRegistry item) (left right : Int) :
      AsksNoRegistry (.padded item left right)
  | repeated {item : Renderer} (asks : AsksNoRegistry item) (count : Int) :
      AsksNoRegistry (.repeated item count)
  | unlaid (item : Renderer) : AsksNoRegistry (.unlaid item)
  | session (items : List Item) (measure : Measure) {arguments : List Renderer}
      (asks : ∀ argument ∈ arguments, AsksNoRegistry argument) :
      AsksNoRegistry (.session items measure arguments)

theorem AsksNoRegistry.wantsNoProvider_render {renderer : Renderer} (asks : renderer.AsksNoRegistry)
    (occupancy : Occupancy) (options : Text) :
    (render occupancy renderer options).WantsNoProvider := by
  induction asks generalizing options with
  | ruled kind subject => exact (kind.writesAtOnce_render occupancy subject options).failsOnly
  | custom wants => exact wants occupancy options
  | placeholder text => exact failsOnly_write text
  | sequence _ inductionHypothesis =>
      rw [render_sequence]
      refine (failsOnly_noteAll _).andThen (failsOnly_joinEffects _ ?_)
      rw [List.forall_mem_map]
      exact fun element member => inductionHypothesis element member _
  | aligned _ alignment amount pad measure inductionHypothesis =>
      exact Repetition.failsOnly_align Fault.isOther_of_isOverrun (inductionHypothesis options) _ _ _ _
  | padded _ left right inductionHypothesis =>
      exact Repetition.failsOnly_surround Fault.isOther_of_isOverrun (inductionHypothesis options) _ _
  | repeated _ count inductionHypothesis =>
      exact Repetition.failsOnly_repeated Fault.isOther_of_isOverrun (inductionHypothesis options) _
  | unlaid item => exact failsOnly_fail trivial
  | session items measure _ inductionHypothesis =>
      rw [render, renderAll_eq_map]
      refine failsOnly_sequence ?_
      rw [List.forall_mem_map]
      refine fun item _ => failsOnly_itemEffect Fault.isOther_of_isOverrun ?_ item
      rw [List.forall_mem_map]
      exact inductionHypothesis

end Renderer

/-! ## Values that ask no registry -/

/-- A value that carries no renderer that asks a registry. -/
def Value.AsksNoRegistry : Value → Prop
  | adapter renderer => renderer.AsksNoRegistry
  | session renderer => renderer.AsksNoRegistry
  | wrapper renderer => renderer.AsksNoRegistry
  | _ => True

/-- No value in a container carries a renderer that asks a registry. -/
def Heap.AsksNoRegistry (heap : Heap) : Prop :=
  ∀ container ∈ heap.containers, ∀ element ∈ container.elements, element.AsksNoRegistry

/-- A preparation whose effect does not end for want of a provider, if this is so for all that it has bound
on the way.  It may have to do with a registry itself: that is over when the effect takes place. -/
inductive Preparation.AsksNoRegistry : Preparation → Prop where
  | ready {effect : Occupancy → Text → Rendering}
      (wants : ∀ occupancy options, (effect occupancy options).WantsNoProvider) :
      AsksNoRegistry (.ready effect)
  | failed (fault : Fault) : AsksNoRegistry (.failed fault)
  | bind {value : Value} {next : Except Fault Renderer → Preparation} (asks : value.AsksNoRegistry)
      (each : ∀ outcome, (∀ renderer, outcome = .ok renderer → renderer.AsksNoRegistry) →
        AsksNoRegistry (next outcome)) :
      AsksNoRegistry (.bind value next)

/-- A resolution whose effects do not end for want of a provider. -/
def Resolution.AsksNoRegistry : Resolution → Prop
  | .method own => ∀ value options, (own.effect value options).WantsNoProvider
  | .provider (.custom own) => ∀ heap value, heap.AsksNoRegistry → value.AsksNoRegistry →
      (own.preparation heap value).AsksNoRegistry
  | _ => True

theorem Value.AsksNoRegistry.carried {value : Value} (asks : value.AsksNoRegistry) :
    value.carried.AsksNoRegistry := by
  cases value with
  | adapter renderer => exact asks
  | session renderer => exact asks
  | wrapper renderer => exact asks
  | _ => exact .custom fun _ _ => failsOnly_fail trivial

theorem Heap.AsksNoRegistry.elements {heap : Heap} (asks : heap.AsksNoRegistry) {value : Value}
    {elements : List Value} (opened : heap.elements? value = some elements) :
    ∀ element ∈ elements, element.AsksNoRegistry := by
  unfold Heap.elements? at opened
  split at opened
  · rcases Option.map_eq_some_iff.mp opened with ⟨container, found, rfl⟩
    exact asks container (List.mem_of_getElem? found)
  · cases opened
    exact List.forall_mem_map.mpr fun _ _ => trivial
  · cases opened

/-- What is prepared asks no registry, if what the preparation has bound on the way asks none. -/
theorem Preparation.AsksNoRegistry.outcome {preparation : Preparation}
    (asks : preparation.AsksNoRegistry) {answers : Value → Except Fault Renderer}
    (answered : ∀ value renderer, value.AsksNoRegistry → answers value = .ok renderer →
      renderer.AsksNoRegistry)
    {renderer : Renderer} (made : preparation.outcome answers = .ok renderer) :
    renderer.AsksNoRegistry := by
  induction asks with
  | ready wants =>
      cases made
      exact .custom wants
  | failed fault => cases made
  | bind asks _ inductionHypothesis =>
      exact inductionHypothesis _ (fun renderer bound => answered _ _ asks bound) made

namespace Binding

variable {heap : Heap} {answer : ArgumentType → Option Resolution}
  {asked : List Identity → Value → Except Fault Renderer} {path : List Identity} {value : Value}
  {renderer : Renderer}

/-- What a value is bound to asks no registry. -/
theorem Binds.asksNoRegistry (binds : Binds heap answer asked path value renderer)
    (asksHeap : heap.AsksNoRegistry)
    (asksAnswer : ∀ type resolution, answer type = some resolution → resolution.AsksNoRegistry)
    (asksAsked : ∀ path value renderer, value.AsksNoRegistry → asked path value = .ok renderer →
      renderer.AsksNoRegistry)
    (asks : value.AsksNoRegistry) : renderer.AsksNoRegistry := by
  induction binds with
  | carried found => exact asks.carried
  | @method path value method found =>
      have asksMethod : (Resolution.method method).AsksNoRegistry := asksAnswer _ _ found
      exact .custom fun _ => asksMethod value
  | rule found => exact .ruled _ _
  | @custom path value provider renderer found made =>
      have asksProvider : (Resolution.provider (.custom provider)).AsksNoRegistry := asksAnswer _ _ found
      exact (asksProvider heap value asksHeap asks).outcome (asksAsked path) made
  | again found among => exact .placeholder _
  | @sequence path value guard elements renderers found opened notAmong length _ inductionHypothesis =>
      have asksElements := asksHeap.elements opened
      have paired : List.Forall₂ (fun element renderer => element.AsksNoRegistry →
          renderer.AsksNoRegistry) elements renderers :=
        List.forall₂_iff_zip.mpr ⟨length, fun member => inductionHypothesis _ _ member⟩
      exact .sequence <| forall_mem_of_forall₂ paired fun element member _ carries =>
        carries (asksElements element member)

/-- However many preparations are under way, what a value is bound to asks no registry. -/
theorem asksNoRegistry_of_plainNested (asksHeap : heap.AsksNoRegistry)
    (asksAnswer : ∀ type resolution, answer type = some resolution → resolution.AsksNoRegistry)
    {room nesting : Nat} (bound : plainNested heap answer room nesting path value = .ok renderer)
    (asks : value.AsksNoRegistry) : renderer.AsksNoRegistry := by
  induction nesting generalizing path value renderer with
  | zero => cases bound
  | succ nesting inductionHypothesis =>
      exact (binds_of_plainWithin bound).asksNoRegistry asksHeap asksAnswer
        (fun _ _ _ asks bound => inductionHypothesis bound asks) asks

end Binding

theorem Hierarchy.mem_said_of_method {hierarchy : Hierarchy} {type : ArgumentType} {method : Method}
    (found : hierarchy.method type = .defined method) : .defined method ∈ hierarchy.said type := by
  rw [method_eq_find?] at found
  cases first : (hierarchy.said type).find? OwnMethod.isSaid with
  | none =>
      rw [first] at found
      cases found
  | some said =>
      rw [first] at found
      obtain rfl : said = .defined method := found
      exact List.mem_of_find?_eq_some first

/-- As long as no types are declared, there are no methods but those that values carry. -/
theorem Hierarchy.defined_not_mem_said_empty (type : ArgumentType) (method : Method) :
    .defined method ∉ Hierarchy.empty.said type := by
  have notOwn : ∀ type, Hierarchy.empty.own type ≠ .defined method := by
    intro type said
    cases type <;> cases said
  have plain : Hierarchy.empty.metatype type = .plain := rfl
  simp [said, saidAlong, plain, Metatype.plain, notOwn]

/-- A type resolves to nothing but what types say of themselves and the providers that are assigned. -/
theorem Registry.asksNoRegistry_of_lookup {hierarchy : Hierarchy} {providers : ProviderMap}
    (methods : ∀ type own, .defined own ∈ hierarchy.said type → (Resolution.method own).AsksNoRegistry)
    (assigned : ∀ entry ∈ providers, (Resolution.provider entry.2).AsksNoRegistry) {type : ArgumentType}
    {resolution : Resolution} (found : lookup hierarchy providers type = some resolution) :
    resolution.AsksNoRegistry := by
  unfold lookup at found
  split at found
  · cases found
    trivial
  · next method defined =>
      cases found
      exact methods type method (Hierarchy.mem_said_of_method defined)
  · rcases Option.map_eq_some_iff.mp found with ⟨provider, first, rfl⟩
    rcases ProviderMap.exists_mem_of_firstAlong first with ⟨entry, member, rfl⟩
    exact assigned entry member

theorem Registry.asksNoRegistry_builtinProviders (guard : Nat) :
    ∀ entry ∈ Registry.builtinProviders guard, (Resolution.provider entry.2).AsksNoRegistry := by
  simp [Registry.builtinProviders, Resolution.AsksNoRegistry]

namespace Workspace

variable {workspace : Workspace} {format : Text} {values : List Value} {given : Option Settings}
  {number : Option Nat} {items : Option ParsedItems} {opened : OpenSession}

/-- No value and no resolution that has a part in opening a session ends for want of a provider of its
own accord. -/
structure AsksNoRegistry (workspace : Workspace) (number : Option Nat) (values : List Value) : Prop where
  values : ∀ value ∈ values, value.AsksNoRegistry
  heap : workspace.heap.AsksNoRegistry
  resolutions : ∀ type resolution,
    (workspace.registry (number.getD defaultRegistry)).answer? workspace.hierarchy type =
      some resolution → resolution.AsksNoRegistry

theorem AsksNoRegistry.arguments (asks : AsksNoRegistry workspace number values)
    {arguments : List Renderer} (bound : boundArguments workspace number values = .ok arguments) :
    ∀ argument ∈ arguments, argument.AsksNoRegistry := by
  refine Binding.forall_mem_of_forall₂ (Binding.forall₂_of_mapM_eq_ok bound) ?_
  intro value member renderer bound
  have asksValue := asks.values value member
  cases value with
  | wrapper carried =>
      obtain rfl : carried = renderer := Except.ok.inj bound
      exact asksValue
  | _ => exact Binding.asksNoRegistry_of_plainNested asks.heap asks.resolutions bound asksValue

/-- A session that was opened renders as it would have rendered at once, whatever has been done to
registries since, and it does not end for want of a provider. -/
theorem renderSession_performAll (idle : workspace.busy = [])
    (asks : AsksNoRegistry workspace number values)
    (opens : Action.outcome (openSession format values given number items) workspace = .ok opened) :
    let built := Action.after (openSession format values given number items) workspace
    ∃ rendering, Action.outcome (renderSession opened) built = .ok rendering ∧
      (∀ type, rendering.fault ≠ some (.unsupportedType type)) ∧
      ∀ history, Action.outcome (renderSession opened) (Operation.performAll history built) =
        .ok rendering := by
  intro built
  refine ⟨opened.session.render built.heap.occupancy, rfl, fun type ends => ?_, fun history => ?_⟩
  · have asksArguments := asks.arguments (boundArguments_of_openSession idle opens)
    have asksSession := Renderer.AsksNoRegistry.session opened.session.parsed.items
      opened.session.measure asksArguments
    exact asksSession.wantsNoProvider_render built.heap.occupancy [] (.unsupportedType type) ends
  · -- Rendering reads the containers and nothing else, and no operation changes any of them.
    rw [Operation.performAll_eq]
    rfl

/-- A session with nested sequences goes on as it was when a provider that it needed is taken away, while
the same session could not have been opened after that. -/
theorem renderSession_performAll_listInTuple :
    let opening := openSession listInTupleOpened.session.format listInTupleValues none none none
    let built := Action.after opening listInTuple
    let history : List Operation :=
      [.unregister 0 .tuple, .copy 0, .register 0 .integer (.sequence 5), .resolve 0 .integer]
    Action.outcome opening listInTuple = .ok listInTupleOpened ∧
      (∃ rendering, Action.outcome (renderSession listInTupleOpened) built = .ok rendering ∧
        Action.outcome (renderSession listInTupleOpened) (Operation.performAll history built) =
          .ok rendering) ∧
      Action.outcome opening (Operation.performAll history listInTuple) =
        .error (.unsupportedType .tuple) := by
  have asks : AsksNoRegistry listInTuple none listInTupleValues := by
    refine ⟨?_, ?_, fun type resolution => ?_⟩
    · simpa [listInTupleValues, Value.AsksNoRegistry] using Renderer.AsksNoRegistry.repeated (.ruled _ _) 2
    · simp [Heap.AsksNoRegistry, listInTuple, Container.elements, Container.Content.elements,
        Value.AsksNoRegistry]
    · exact Registry.asksNoRegistry_of_lookup
        (fun type own said => absurd said (Hierarchy.defined_not_mem_said_empty type own))
        (Registry.asksNoRegistry_builtinProviders 0)
  intro opening built history
  obtain ⟨rendering, renders, _, permanent⟩ :=
    renderSession_performAll rfl asks outcome_openSession_listInTuple
  refine ⟨outcome_openSession_listInTuple, ⟨rendering, renders, permanent history⟩, ?_⟩
  rw [openSession_eq_unsupportedType_iff rfl]
  rfl

end Workspace
end FieldText
