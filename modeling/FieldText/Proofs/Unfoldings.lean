import FieldText.Proofs.Renderings
import FieldText.Proofs.Ways

/-!
What cyclic containers are rendered as.  A container whose type is resolved to a sequence provider is a
node of a graph that can have any cycles and in which anything can be shared.  The graph is unfolded into
a tree: a node that is its own ancestor is cut, and every other occurrence of a node is unfolded in full,
whether or not it occurs elsewhere.  If the leaves of this tree can be bound, each by itself, then the
value can be bound, and what it is bound to renders as the tree says.

The guards that binding uses do not know about trees.  What connects both is that a leaf can be bound as if
nothing were on the way to it, since only nodes of the graph are, and a leaf is apart from them: a text leads to
nothing but letters, and a provider of the user must not go back to one of these nodes when it prepares a leaf.
-/

namespace FieldText

/-! ## The unfolding of a value -/

/-- Whether a content is that of a tuple. -/
def Container.Content.isTuple : Container.Content → Bool
  | .tuple _ => true
  | _ => false

/-- A tree that a value is unfolded into. -/
inductive Unfolding where
  | leaf (value : Value)
  /-- A node inside itself, of which it only matters whether it is a tuple. -/
  | again (isTuple : Bool)
  | node (elements : List Unfolding)

namespace Unfolding

/-- What stands for a node inside itself. -/
def cutText (isTuple : Bool) : Text := if isTuple then "(...)".toList else "[...]".toList

/-- The leaves, in order. -/
def leaves : Unfolding → List Value
  | leaf value => [value]
  | again _ => []
  | node elements => elements.flatMap leaves

/-- The leaves, each with the options that reach it. -/
def occurrences : Unfolding → Text → List (Value × Text)
  | leaf value, options => [(value, options)]
  | again _, _ => []
  | node elements, options =>
    elements.flatMap fun element => element.occurrences (RangeOptions.read options).1.element

/-- The text of a tree, given the texts of its leaves.  The elements of a node have their own options and
are joined by a separator. -/
def text (leafText : Value → Text → Text) : Unfolding → Text → Text
  | leaf value, options => leafText value options
  | again isTuple, _ => cutText isTuple
  | node elements, options =>
    Text.join (RangeOptions.read options).1.separator
      (elements.map fun element => element.text leafText (RangeOptions.read options).1.element)

/-- The renderer of a tree, given the renderers of its leaves. -/
def renderer (bound : Value → Renderer) : Unfolding → Renderer
  | leaf value => bound value
  | again isTuple => .placeholder (cutText isTuple)
  | node elements => .sequence (elements.map (renderer bound))

/-- Induction over a tree and everything inside it. -/
@[elab_as_elim]
theorem induction {motive : Unfolding → Prop} (leaf : ∀ value, motive (.leaf value))
    (again : ∀ isTuple, motive (.again isTuple))
    (node : ∀ elements, (∀ element ∈ elements, motive element) → motive (.node elements)) :
    ∀ tree, motive tree
  | .leaf value => leaf value
  | .again isTuple => again isTuple
  | .node elements => node elements fun element _ => induction leaf again node element

end Unfolding

namespace Value

section

variable (heap : Heap) (answer : ArgumentType → Option Resolution)

/-- The place of a node, and the container there. -/
def node? : Value → Option (Nat × Container)
  | container place =>
    match heap.get? place with
    | none => none
    | some held =>
      match answer held.type with
      | some (.provider (.sequence _)) => some (place, held)
      | _ => none
  | _ => none

variable {heap answer}

theorem node?_eq_some_iff {value : Value} {place : Nat} {held : Container} :
    value.node? heap answer = some (place, held) ↔
      value = .container place ∧ heap.get? place = some held ∧
        ∃ guard, answer held.type = some (.provider (.sequence guard)) := by
  constructor
  · intro isNode
    unfold node? at isNode
    split at isNode
    · split at isNode
      · cases isNode
      · next present =>
          split at isNode
          · next guard resolved =>
              cases isNode
              exact ⟨rfl, present, guard, resolved⟩
          · cases isNode
    · cases isNode
  · rintro ⟨rfl, present, guard, resolved⟩
    simp [node?, present, resolved]

theorem place_not_mem_map {ancestors : List Nat} {place : Nat} (notAncestor : place ∉ ancestors) :
    Identity.place place ∉ ancestors.map Identity.place := by
  rw [List.mem_map]
  rintro ⟨other, member, same⟩
  cases same
  exact notAncestor member

variable (heap answer)

/-- The tree that a value is unfolded into, below the nodes at some places. -/
def unfolding (ancestors : List Nat) (value : Value) : Unfolding :=
  match _isNode : value.node? heap answer with
  | none => .leaf value
  | some (place, held) =>
    if _again : place ∈ ancestors then .again held.content.isTuple
    else .node (held.elements.map fun element => unfolding (place :: ancestors) element)
termination_by remaining heap (ancestors.map Identity.place)
decreasing_by
  rcases node?_eq_some_iff.mp _isNode with ⟨_, present, _⟩
  exact remaining_place_lt (List.getElem?_eq_some_iff.mp present).1 (place_not_mem_map _again)

variable {heap answer}

theorem unfolding_of_leaf {value : Value} (isLeaf : value.node? heap answer = none) (ancestors : List Nat) :
    value.unfolding heap answer ancestors = .leaf value := by
  rw [unfolding]
  split
  · rfl
  · next isNode => cases isLeaf.symm.trans isNode

theorem unfolding_of_node {value : Value} {place : Nat} {held : Container}
    (isNode : value.node? heap answer = some (place, held)) (ancestors : List Nat) :
    value.unfolding heap answer ancestors =
      if place ∈ ancestors then .again held.content.isTuple
      else .node (held.elements.map (unfolding heap answer (place :: ancestors))) := by
  rw [unfolding]
  split
  · next isLeaf => cases isLeaf.symm.trans isNode
  · next isNodeThere =>
      cases isNodeThere.symm.trans isNode
      split <;> rfl

end

end Value

/-! ## Leaves -/

namespace Value

variable {heap : Heap} {answer : ArgumentType → Option Resolution} {root value inner : Value}

/-- A value reaches a node at a place. -/
def HasNode (heap : Heap) (answer : ArgumentType → Option Resolution) (root : Value) (place : Nat) : Prop :=
  Reaches heap answer root (.container place) ∧ (Value.container place).node? heap answer ≠ none

/-- Nothing leads back from a value to the nodes that another value reaches: none of them may be bound along
with it.  Only then is it a leaf of their graph. -/
def IsApartFrom (heap : Heap) (answer : ArgumentType → Option Resolution) (value root : Value) : Prop :=
  ∀ place, HasNode heap answer root place → ¬ MayReach heap answer value (.container place)

theorem node?_of_not_container (notContainer : ∀ place, value ≠ .container place) :
    value.node? heap answer = none := by
  cases value with
  | container place => exact absurd rfl (notContainer place)
  | _ => rfl

/-- A container that has elements and is resolved to a sequence provider is a node. -/
theorem not_container_of_not_node (isLeaf : value.node? heap answer = none) {guard : Nat}
    (found : answer (heap.typeOf value) = some (.provider (.sequence guard))) {elements : List Value}
    (opened : heap.elements? value = some elements) : ∀ place, value ≠ .container place := by
  rintro place rfl
  rcases Option.map_eq_some_iff.mp opened with ⟨held, present, _⟩
  have resolved : answer held.type = some (.provider (.sequence guard)) := by
    simpa [Heap.typeOf, present] using found
  cases isLeaf.symm.trans (node?_eq_some_iff.mpr ⟨rfl, present, guard, resolved⟩)

/-- A value that is no container has no containers for elements. -/
theorem not_container_of_mem_elements (notContainer : ∀ place, value ≠ .container place)
    {elements : List Value} (opened : heap.elements? value = some elements) :
    ∀ element ∈ elements, ∀ place, element ≠ .container place := by
  unfold Heap.elements? at opened
  split at opened
  · next place => exact absurd rfl (notContainer place)
  · cases opened
    exact List.forall_mem_map.mpr fun _ _ _ => nofun
  · cases opened

/-- As long as no provider has anything bound while it prepares a value, no node may be bound along with a
leaf. -/
theorem node?_of_not_asking (isLeaf : value.node? heap answer = none)
    (notAsking : ∀ provider, (∃ type, answer type = some (.provider (.custom provider))) →
      provider.prepare = none) (reaches : MayReach heap answer value inner) :
    inner.node? heap answer = none := by
  induction reaches with
  | refl => exact isLeaf
  | tail _ binds inductionHypothesis =>
      rcases binds with ⟨guard, elements, found, opened, member⟩ | ⟨provider, found, asks⟩
      · have notContainer := not_container_of_not_node inductionHypothesis found opened
        exact node?_of_not_container (not_container_of_mem_elements notContainer opened _ member)
      · rw [CustomProvider.preparation, notAsking provider ⟨_, found⟩] at asks
        exact asks.elim

theorem isApartFrom_of_not_asking (isLeaf : value.node? heap answer = none)
    (notAsking : ∀ provider, (∃ type, answer type = some (.provider (.custom provider))) →
      provider.prepare = none) (root : Value) : value.IsApartFrom heap answer root :=
  fun _ isNode reaches => isNode.2 (node?_of_not_asking isLeaf notAsking reaches)

theorem isAmong_map_place {ancestors : List Nat} (notAncestor : ∀ place ∈ ancestors, value ≠ .container place) :
    value.isAmong (ancestors.map Identity.place) = false := by
  rw [Bool.eq_false_iff, Ne, isAmong_eq_true_iff]
  rintro ⟨identity, onPath, known⟩
  rcases List.mem_map.mp onPath with ⟨place, member, rfl⟩
  exact notAncestor place member (eq_value_of_identity? known)

theorem isAmong_nil (value : Value) : value.isAmong [] = false := by
  rw [Bool.eq_false_iff, Ne, isAmong_eq_true_iff]
  rintro ⟨_, onPath, _⟩
  exact List.not_mem_nil onPath

/-- The nodes that are on the way make no difference to a leaf. -/
theorem IsApartFrom.seesAlike (apart : value.IsApartFrom heap answer root) {ancestors : List Nat}
    (areNodes : ∀ place ∈ ancestors, root.HasNode heap answer place) :
    SeesAlike heap answer answer (ancestors.map Identity.place) [] value where
  alike _ _ := Or.inl rfl
  among inner _ _ reaches _ _ := by
    rw [isAmong_nil, isAmong_map_place]
    rintro place member rfl
    exact apart place (areNodes place member) reaches

end Value

namespace Binding

variable {heap : Heap} {answer : ArgumentType → Option Resolution}
  {asked : List Identity → Value → Except Fault Renderer}

/-! ## Nodes -/

theorem placeholder_of_node {place : Nat} {held : Container} (present : heap.get? place = some held) :
    heap.placeholder (.container place) = Unfolding.cutText held.content.isTuple := by
  simp only [Heap.placeholder, present, Option.map_some]
  cases held.content <;> rfl

/-- A node is entered unless it is its own ancestor. -/
theorem entered?_of_node {value : Value} {place : Nat} {held : Container}
    (isNode : value.node? heap answer = some (place, held)) {ancestors : List Nat}
    (notAgain : place ∉ ancestors) :
    value.entered? heap answer (ancestors.map Identity.place) = some held.elements ∧
      value.enter (ancestors.map Identity.place) = (place :: ancestors).map Identity.place := by
  rcases Value.node?_eq_some_iff.mp isNode with ⟨rfl, present, guard, resolved⟩
  refine ⟨Value.entered?_eq_some_iff.mpr ⟨⟨guard, ?_⟩, ?_, rfl, ?_⟩, rfl⟩
  · simpa [Heap.typeOf, present] using resolved
  · simpa [Value.isAmong, Value.identity?] using notAgain
  · simp [Heap.elements?, present]

/-- If the leaves of a tree can be bound, each by itself, then the value that the tree belongs to is bound to
what the tree says. -/
theorem plainWithin_unfolding (alikeAsked : BindsAlike heap answer answer asked asked)
    {bound : Value → Renderer} {alone room : Nat} {root : Value} (ancestors : List Nat) (value : Value)
    (areNodes : ∀ place ∈ ancestors, root.HasNode heap answer place)
    (reached : Value.Reaches heap answer root value)
    (enough : value.need heap (ancestors.map Identity.place) ≤ room)
    (apart : ∀ leaf ∈ (value.unfolding heap answer ancestors).leaves, leaf.IsApartFrom heap answer root)
    (leaves : ∀ leaf ∈ (value.unfolding heap answer ancestors).leaves,
      plainWithin heap answer asked alone [] leaf = .ok (bound leaf)) :
    plainWithin heap answer asked room (ancestors.map Identity.place) value =
      .ok ((value.unfolding heap answer ancestors).renderer bound) := by
  -- The induction follows the tree.  The room shrinks with it, and the leaves are bound in a room of their own.
  induction ancestors, value using Value.unfolding.induct heap answer generalizing room with
  | case1 ancestors value isLeaf =>
      rw [Value.unfolding_of_leaf isLeaf] at apart leaves ⊢
      rw [Unfolding.renderer]
      have byItself := leaves value (by simp [Unfolding.leaves])
      have sees := (apart value (by simp [Unfolding.leaves])).seesAlike areNodes
      rw [← bindsAlike_plainWithin alikeAsked alone _ _ _ sees] at byItself
      exact plainWithin_of_need_le byItself enough
  | case2 ancestors value place held isNode again =>
      rcases Value.node?_eq_some_iff.mp isNode with ⟨rfl, present, guard, resolved⟩
      rcases exists_plainWithin_eq heap answer asked room with ⟨plainElements, step⟩
      rw [Value.unfolding_of_node isNode, if_pos again, step]
      simp [plainStep, Heap.typeOf, Heap.elements?, present, resolved, Value.isAmong, Value.identity?, again,
        placeholder_of_node present, Unfolding.renderer]
  | case3 ancestors value place held isNode notAgain inductionHypothesis =>
      rcases entered?_of_node isNode notAgain with ⟨entered, longer⟩
      rcases Value.entered?_eq_some_iff.mp entered with ⟨⟨guard, found⟩, notAmong, _, opened⟩
      rw [Value.unfolding_of_node isNode, if_neg notAgain] at apart leaves ⊢
      have positive : 0 < room := lt_of_lt_of_le (Value.need_pos notAmong) enough
      rcases Nat.exists_eq_succ_of_ne_zero (by omega : room ≠ 0) with ⟨smaller, rfl⟩
      have longerAreNodes : ∀ other ∈ place :: ancestors, root.HasNode heap answer other := by
        rcases Value.node?_eq_some_iff.mp isNode with ⟨rfl, _⟩
        exact List.forall_mem_cons.mpr ⟨⟨reached, by simp [isNode]⟩, areNodes⟩
      have below : ∀ element ∈ held.elements,
          ∀ leaf ∈ (element.unfolding heap answer (place :: ancestors)).leaves,
            leaf ∈
              (Unfolding.node (held.elements.map (Value.unfolding heap answer (place :: ancestors)))).leaves := by
        intro element member leaf isLeaf
        rw [Unfolding.leaves, List.flatMap_map]
        exact List.mem_flatMap.mpr ⟨element, member, isLeaf⟩
      have inside : held.elements.mapM
          (plainWithin heap answer asked smaller (value.enter (ancestors.map Identity.place))) =
            .ok (held.elements.map fun element =>
              (element.unfolding heap answer (place :: ancestors)).renderer bound) := by
        rw [mapM_eq_ok_iff_forall₂, List.forall₂_map_right_iff, List.forall₂_same, longer]
        intro element member
        have less := Value.need_lt_of_entered? entered member
        rw [longer] at less
        exact inductionHypothesis element longerAreNodes
          (reached.tail ⟨guard, held.elements, found, opened, member⟩) (by omega)
          (fun leaf isLeaf => apart leaf (below element member leaf isLeaf))
          fun leaf isLeaf => leaves leaf (below element member leaf isLeaf)
      simp [plainWithin, plainStep, found, opened, notAmong, inside, Unfolding.renderer, Except.map]

/-- The room that is given is enough for any tree. -/
theorem plainWithin_depthBound_unfolding (world : World) {registry : Registry}
    (remembers : registry.answer? world.hierarchy = Registry.lookup world.hierarchy registry.providers)
    (alikeAsked : BindsAlike world.heap (registry.answer? world.hierarchy) (registry.answer? world.hierarchy)
      asked asked)
    (bound : Value → Renderer) (value : Value)
    (apart : ∀ leaf ∈ (value.unfolding world.heap (registry.answer? world.hierarchy) []).leaves,
      leaf.IsApartFrom world.heap (registry.answer? world.hierarchy) value)
    (leaves : ∀ leaf ∈ (value.unfolding world.heap (registry.answer? world.hierarchy) []).leaves,
      plainWithin world.heap (registry.answer? world.hierarchy) asked (depthBound world registry) [] leaf =
        .ok (bound leaf)) :
    plainWithin world.heap (registry.answer? world.hierarchy) asked (depthBound world registry) [] value =
      .ok ((value.unfolding world.heap (registry.answer? world.hierarchy) []).renderer bound) := by
  rw [plainWithin_depthBound world remembers] at leaves ⊢
  exact plainWithin_unfolding alikeAsked [] value (List.forall_mem_nil _) .refl (need_le_ample _ _) apart leaves

end Binding

/-! ## Rendering a tree -/

theorem Renderer.fault_joinEffects_eq_none_iff (separator : Text) (effects : List Rendering) :
    (joinEffects separator effects).fault = none ↔ ∀ effect ∈ effects, effect.fault = none := by
  rw [fault_joinEffects, List.findSome?_eq_none_iff]

namespace Unfolding

variable (bound : Value → Renderer) (occupancy : Occupancy)

theorem render_node (elements : List Unfolding) (options : Text) :
    ((node elements).renderer bound).render occupancy options =
      (Rendering.noteAll (RangeOptions.read options).2).andThen
        (Renderer.joinEffects (RangeOptions.read options).1.separator
          (elements.map fun element =>
            (element.renderer bound).render occupancy (RangeOptions.read options).1.element)) := by
  rw [renderer, Renderer.render_sequence, List.map_map]
  rfl

/-- A tree is rendered without a fault if and only if each of its leaves is, with the options that reach
it. -/
theorem fault_render_eq_none_iff (tree : Unfolding) (options : Text) :
    ((tree.renderer bound).render occupancy options).fault = none ↔
      ∀ occurrence ∈ tree.occurrences options,
        ((bound occurrence.1).render occupancy occurrence.2).fault = none := by
  induction tree using Unfolding.induction generalizing options with
  | leaf value => simp [renderer, occurrences]
  | again isTuple => simp [renderer, occurrences, Renderer.render, Rendering.write]
  | node elements inductionHypothesis =>
      rw [render_node, Rendering.andThen_fault, Option.or_eq_none_iff,
        Renderer.fault_joinEffects_eq_none_iff, List.forall_mem_map, occurrences, List.forall_mem_flatMap]
      refine (and_iff_right rfl).trans (forall₂_congr fun element member => ?_)
      exact inductionHypothesis element member _

theorem writes_render (tree : Unfolding) (options : Text) :
    ((tree.renderer bound).render occupancy options).Writes
      (tree.text (fun leaf options => ((bound leaf).render occupancy options).text) options) := by
  induction tree using Unfolding.induction generalizing options with
  | leaf value =>
      rw [renderer, text]
      exact Rendering.writes_text _
  | again isTuple =>
      rw [renderer, text]
      exact Rendering.writes_write _
  | node elements inductionHypothesis =>
      rw [render_node, text]
      refine (Rendering.writes_noteAll _).andThen (Renderer.writes_joinEffects _ ?_)
      rw [List.forall₂_map_left_iff, List.forall₂_map_right_iff, List.forall₂_same]
      exact fun element member => inductionHypothesis element member _

end Unfolding

namespace Workspace

/-- The state in which a value is bound. -/
def bindingState (workspace : Workspace) (number : Nat) : BindingState :=
  ⟨workspace.registry number, workspace.busy, []⟩

theorem bindWithin_bindingState {workspace : Workspace} (idle : workspace.busy = [])
    (number room nesting : Nat) (value : Value) :
    (Binding.bindWithin workspace.world (Binding.bindNested workspace.world nesting) room value
        (workspace.bindingState number)).1 =
      Binding.plainWithin workspace.world.heap
        ((workspace.registry number).answer? workspace.world.hierarchy)
        (Binding.plainNested workspace.world.heap
          ((workspace.registry number).answer? workspace.world.hierarchy)
          (Binding.depthBound workspace.world (workspace.registry number)) nesting) room [] value := by
  have serves : Binding.Serves workspace.world (workspace.registry number) []
      (workspace.bindingState number) := ⟨.refl _ _, idle⟩
  exact Binding.bindWithin_fst (Binding.keeping_bindNested workspace.world nesting)
    (Binding.bindNested_fst workspace.world (workspace.registry number) nesting) room [] []
    Binding.guardsWay_nil value _ serves

theorem outcome_bind_value (workspace : Workspace) (number : Nat) (value : Value) :
    Action.outcome (bind number value) workspace =
      (Binding.bindWithin workspace.world (Binding.bindNested workspace.world workspace.host.nesting)
        (Binding.depthBound workspace.world (workspace.registry number)) value
        (workspace.bindingState number)).1 := rfl

/-- Binding a value ends, whatever cycles there are, and if the leaves of its unfolding can be bound, each by
itself and apart from the nodes that the value reaches, then the value can be bound.  It makes no difference if there is more room than
is given, so it is not for want of room that binding ends.  What the value is bound to is rendered without a
fault if and only if the leaves are, each with the options that reach it, and then its text is the text of the
unfolding: the elements of a node are joined, with options and a separator that are read anew at every node, and
a node inside itself is cut.  It does not matter what was done with registries before. -/
theorem bind_unfolds (workspace : Workspace) (history : List Operation) (number : Nat) (value : Value)
    (bound : Value → Renderer) :
    let answer := ((Ledger.ofHistory history).assigned number).resolution? workspace.hierarchy
    let tree := value.unfolding workspace.heap answer []
    let now := Operation.performAll history workspace.cleared
    (∀ leaf ∈ tree.leaves, leaf.IsApartFrom workspace.heap answer value) →
    (∀ leaf ∈ tree.leaves, Action.outcome (bind number leaf) now = .ok (bound leaf)) →
      ∃ renderer, Action.outcome (bind number value) now = .ok renderer ∧
        (∀ room, Binding.depthBound now.world (now.registry number) ≤ room →
          (Binding.bindWithin now.world (Binding.bindNested now.world now.host.nesting) room value
            (now.bindingState number)).1 = .ok renderer) ∧
        ∀ occupancy options,
          ((renderer.render occupancy options).fault = none ↔
            ∀ occurrence ∈ tree.occurrences options,
              ((bound occurrence.1).render occupancy occurrence.2).fault = none) ∧
          (renderer.render occupancy options).Writes
            (tree.text (fun leaf options => ((bound leaf).render occupancy options).text) options) := by
  intro answer tree now apart leaves
  have idle : now.busy = [] := Operation.busy_performAll history workspace.cleared
  have world : now.world = workspace.world := Operation.world_performAll history workspace.cleared
  have follows : (now.registry number).Follows now.world.hierarchy
      ((Ledger.ofHistory history).assigned number) :=
    (isRecordedBy_ofHistory workspace history).follows number
  have answers : (now.registry number).answer? now.world.hierarchy = answer := by
    rw [follows.answer?, world]
    rfl
  let asked := Binding.plainNested workspace.heap answer
    (Binding.depthBound now.world (now.registry number)) now.host.nesting
  have runs : ∀ room other, (Binding.bindWithin now.world (Binding.bindNested now.world now.host.nesting) room
      other (now.bindingState number)).1 = Binding.plainWithin workspace.heap answer asked room [] other := by
    intro room other
    rw [bindWithin_bindingState idle, answers, congrArg World.heap world]
    rfl
  simp only [outcome_bind_value, runs] at leaves ⊢
  have alikeAsked : Binding.BindsAlike now.world.heap ((now.registry number).answer? now.world.hierarchy)
      ((now.registry number).answer? now.world.hierarchy) asked asked := by
    rw [answers, congrArg World.heap world]
    exact Binding.bindsAlike_plainNested _ _ _ _ _
  have binds := Binding.plainWithin_depthBound_unfolding now.world follows.remembers alikeAsked bound value
  rw [answers, congrArg World.heap world] at binds
  have boundTree := binds apart leaves
  refine ⟨tree.renderer bound, boundTree, fun room le => Binding.plainWithin_mono le boundTree,
    fun occupancy options => ?_⟩
  exact ⟨tree.fault_render_eq_none_iff bound occupancy options, tree.writes_render bound occupancy options⟩

/-- A list that holds itself, a range, and a tuple twice.  The tuple holds the range, the list and itself. -/
def sharedCycle : Workspace :=
  { initial .plain [] with
    heap := ⟨[⟨.list, .list [.container 0, .container 1, .container 2, .container 1]⟩,
      ⟨.tuple, .tuple [.container 2, .container 0, .container 1]⟩,
      ⟨.range, .range 4 6 1⟩]⟩ }

/-- Tuples have a sequence provider of their own. -/
def tuplesApart : List Operation := [.create (Registry.builtinProviders 0), .register 0 .tuple (.sequence 1)]

/-- What an integer is bound to. -/
def boundInteger : Value → Renderer
  | .scalar _ (.integer i) => .ruled .integer (.scalar (.integer i))
  | _ => .placeholder []

/-- The tree of the list. -/
def sharedTree : Unfolding :=
  let range : Unfolding := .node [.leaf (.scalar .integer (.integer 4)), .leaf (.scalar .integer (.integer 5))]
  let tuple : Unfolding := .node [range, .again false, .again true]
  .node [.again false, tuple, range, tuple]

/-- Options for a list, with options for its elements. -/
def separators : Text := "$[; ]@[$<+>]".toList

theorem bind_unfolds_sharedCycle :
    let answer := ((Ledger.ofHistory tuplesApart).assigned 0).resolution? sharedCycle.hierarchy
    let now := Operation.performAll tuplesApart sharedCycle.cleared
    Value.unfolding sharedCycle.heap answer [] (.container 0) = sharedTree ∧
      (∀ leaf ∈ sharedTree.leaves, leaf.IsApartFrom sharedCycle.heap answer (.container 0)) ∧
      (∀ leaf ∈ sharedTree.leaves, Action.outcome (bind 0 leaf) now = .ok (boundInteger leaf)) ∧
      ∃ renderer, Action.outcome (bind 0 (.container 0)) now = .ok renderer ∧
        (renderer.render sharedCycle.heap.occupancy separators).fault = none ∧
        (renderer.render sharedCycle.heap.occupancy separators).text =
          "[...]; 4, 5+[...]+(...); 4+5; 4, 5+[...]+(...)".toList := by
  intro answer now
  have unfolded : Value.unfolding sharedCycle.heap answer [] (.container 0) = sharedTree := by cbv
  have listed : sharedTree.leaves = [4, 5, 4, 5, 4, 5].map fun i => .scalar .integer (.integer i) := by cbv
  have apart : ∀ leaf ∈ sharedTree.leaves, leaf.IsApartFrom sharedCycle.heap answer (.container 0) := by
    have notAsking : ∀ provider, (∃ type, answer type = some (.provider (.custom provider))) →
        provider.prepare = none := by
      rintro provider ⟨type, found⟩
      cases type <;> cases found
    rw [listed, List.forall_mem_map]
    exact fun i _ => Value.isApartFrom_of_not_asking rfl notAsking (.container 0)
  have leaves : ∀ leaf ∈ sharedTree.leaves, Action.outcome (bind 0 leaf) now = .ok (boundInteger leaf) := by
    rw [listed, List.forall_mem_map]
    exact fun i _ => rfl
  rcases bind_unfolds sharedCycle tuplesApart 0 (.container 0) boundInteger (unfolded ▸ apart)
    (unfolded ▸ leaves) with ⟨renderer, binds, _, renders⟩
  rcases renders sharedCycle.heap.occupancy separators with ⟨completes, writes⟩
  rw [unfolded] at completes writes
  have succeeds : (renderer.render sharedCycle.heap.occupancy separators).fault = none := by
    have reached : sharedTree.occurrences separators =
        [4, 5, 4, 5, 4, 5].map fun i => (.scalar .integer (.integer i), []) := by cbv
    rw [completes, reached]
    decide
  refine ⟨unfolded, apart, leaves, renderer, binds, succeeds, (writes succeeds).trans ?_⟩
  cbv

end Workspace
end FieldText
