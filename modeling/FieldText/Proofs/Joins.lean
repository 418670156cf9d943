import FieldText.Proofs.DirectUses
import FieldText.Proofs.Separators
import FieldText.Proofs.Sessions
import FieldText.Proofs.Texts
import FieldText.Proofs.Widths
import Mathlib

/-!
Sequences that are rendered with range options.  A field hands its options to the sequence as they are written,
and the sequence writes its elements with the separator between them, each with the options for elements.  What
such an element is bound to does not depend on the sequence around it, as long as there are no cycles.  So the
same law holds of the sequences inside a sequence, down to any depth, with the options that reach them.
-/

namespace FieldText

/-! ## Sequences without cycles -/

namespace Value

variable {heap : Heap} {answer : ArgumentType → Option Resolution} {value inner element : Value}
  {elements : List Value}

/-- A value that is resolved to a sequence provider, and the elements that the provider goes through. -/
structure IsSequenceOf (heap : Heap) (answer : ArgumentType → Option Resolution) (elements : List Value)
    (value : Value) : Prop where
  found : ∃ guard, answer (heap.typeOf value) = some (.provider (.sequence guard))
  opened : heap.elements? value = some elements

/-- Nothing that may be bound along with a value is inside itself. -/
def IsAcyclic (heap : Heap) (answer : ArgumentType → Option Resolution) (value : Value) : Prop :=
  ∀ inner, MayReach heap answer value inner → ¬ IsInside heap answer inner inner

theorem IsSequenceOf.leadsTo (isSequence : IsSequenceOf heap answer elements value)
    (member : element ∈ elements) : LeadsTo heap answer value element := by
  obtain ⟨guard, found⟩ := isSequence.found
  exact ⟨guard, elements, found, isSequence.opened, member⟩

theorem LeadsTo.exists_isSequenceOf (leads : LeadsTo heap answer value element) :
    ∃ elements, IsSequenceOf heap answer elements value ∧ element ∈ elements := by
  obtain ⟨guard, elements, found, opened, member⟩ := leads
  exact ⟨elements, ⟨⟨guard, found⟩, opened⟩, member⟩

/-- There are no cycles where every step leads to a value of a lower rank. -/
theorem isAcyclic_of_rank (rank : Value → Nat)
    (falls : ∀ outer inner, MayReach heap answer value outer → MayBind heap answer outer inner →
      rank inner < rank outer) : IsAcyclic heap answer value := by
  intro outer reaches inside
  have below : ∀ inner, IsInside heap answer outer inner → rank inner < rank outer := by
    intro inner inside
    induction inside with
    | single binds => exact falls _ _ reaches binds
    | tail before binds inductionHypothesis =>
        exact (falls _ _ (reaches.trans before.to_reflTransGen) binds).trans inductionHypothesis
  exact (below outer inside).false

/-- A container ranks above the containers at earlier places, and above what is no container. -/
def rank : Value → Nat
  | container place => place + 1
  | _ => 0

end Value

/-! ## What the parts of a sequence are bound to -/

namespace Binding

variable {heap : Heap} {answer : ArgumentType → Option Resolution}
  {asked : List Identity → Value → Except Fault Renderer} {value inner : Value} {elements : List Value}
  {room : Nat} {renderer : Renderer}

/-- A sequence that is not inside itself is bound from what its elements are bound to by themselves. -/
theorem exists_renderers_of_plainWithin (alikeAsked : BindsAlike heap answer answer asked asked)
    (bound : plainWithin heap answer asked room [] value = .ok renderer)
    (isSequence : value.IsSequenceOf heap answer elements) (notInside : ¬ value.IsInside heap answer value) :
    ∃ renderers smaller, renderer = .sequence renderers ∧ smaller < room ∧
      List.Forall₂ (fun element renderer => plainWithin heap answer asked smaller [] element = .ok renderer)
        elements renderers := by
  obtain ⟨guard, found⟩ := isSequence.found
  obtain ⟨others, renderers, smaller, opened, rfl, less, made⟩ := exists_mapM_of_plainWithin bound found
  obtain rfl : elements = others := Option.some.inj (isSequence.opened.symm.trans opened)
  refine ⟨renderers, smaller, rfl, less, mapM_eq_ok_iff_forall₂.mp ?_⟩
  rw [← made]
  refine mapM_congr fun element member => (bindsAlike_plainWithin alikeAsked smaller _ _ _ ?_).symm
  refine Value.seesAlike_enter_of_not_mayReach fun reaches => ?_
  exact notInside (Value.isInside_iff_exists_mayBind.mpr
    ⟨element, Or.inl (isSequence.leadsTo member), reaches⟩)

/-- Whatever is inside a value without cycles can be bound by itself, in the same room. -/
theorem exists_plainWithin_of_reaches (alikeAsked : BindsAlike heap answer answer asked asked)
    (bound : plainWithin heap answer asked room [] value = .ok renderer)
    (acyclic : value.IsAcyclic heap answer) (reaches : value.Reaches heap answer inner) :
    ∃ renderer, plainWithin heap answer asked room [] inner = .ok renderer := by
  induction reaches with
  | refl => exact ⟨renderer, bound⟩
  | @tail outer inner before leads inductionHypothesis =>
      obtain ⟨outerRenderer, outerBound⟩ := inductionHypothesis
      obtain ⟨elements, isSequence, member⟩ := leads.exists_isSequenceOf
      obtain ⟨_, smaller, _, less, each⟩ := exists_renderers_of_plainWithin alikeAsked outerBound isSequence
        (acyclic outer (Value.Reaches.mayReach before))
      have boundInside : ∀ element ∈ elements, ∃ renderer,
          plainWithin heap answer asked smaller [] element = .ok renderer :=
        forall_mem_of_forall₂ each.flip fun renderer _ _ boundElement => ⟨renderer, boundElement⟩
      exact (boundInside inner member).imp fun _ innerBound => plainWithin_mono less.le innerBound

end Binding

/-! ## Joining elements -/

namespace Renderer

/-- A renderer that writes elements as range options say: with a separator between neighbours, and each with
the options for elements. -/
def Joins (renderer : Renderer) (elements : List Renderer) : Prop :=
  ∀ parts options occupancy, RangeOptions.Writes parts options →
    renderer.render occupancy options =
        joinEffects parts.separator (elements.map fun element => element.render occupancy parts.element) ∧
      (renderer.render occupancy options).Writes
        (Text.join parts.separator (elements.map fun element => (element.render occupancy parts.element).text))

theorem joins_sequence (elements : List Renderer) : (sequence elements).Joins elements := by
  intro parts options occupancy writes
  have joined : render occupancy (.sequence elements) options =
      joinEffects parts.separator (elements.map fun element => element.render occupancy parts.element) := by
    rw [render_sequence, RangeOptions.read_of_writes writes]
    exact Rendering.done_andThen _
  rw [joined]
  refine ⟨rfl, writes_joinEffects parts.separator ?_⟩
  rw [List.forall₂_map_left_iff, List.forall₂_map_right_iff, List.forall₂_same]
  exact fun element _ => Rendering.writes_text _

end Renderer

namespace Workspace

variable {workspace : Workspace} {number : Nat} {value inner : Value} {elements : List Value}
  {renderer : Renderer}

/-- A value is bound to a renderer that writes its elements as range options say, and does so with what they
are bound to by themselves. -/
def BindsJoined (workspace : Workspace) (number : Nat) (elements : List Value) (value : Value)
    (renderer : Renderer) : Prop :=
  Action.outcome (bind number value) workspace = .ok renderer ∧
    ∃ renderers, renderer.Joins renderers ∧
      List.Forall₂ (fun element renderer => Action.outcome (bind number element) workspace = .ok renderer)
        elements renderers

/-- The answers of a registry of a workspace. -/
def answers (workspace : Workspace) (number : Nat) : ArgumentType → Option Resolution :=
  (workspace.registry number).answer? workspace.hierarchy

theorem bindsJoined_of_bind (idle : workspace.busy = [])
    (bound : Action.outcome (bind number value) workspace = .ok renderer)
    (isSequence : value.IsSequenceOf workspace.heap (workspace.answers number) elements)
    (notInside : ¬ value.IsInside workspace.heap (workspace.answers number) value) :
    workspace.BindsJoined number elements value renderer := by
  refine ⟨bound, ?_⟩
  rw [outcome_bind_eq idle] at bound
  obtain ⟨renderers, smaller, rfl, less, each⟩ :=
    Binding.exists_renderers_of_plainWithin (Binding.bindsAlike_plainNested _ _ _ _ _) bound isSequence notInside
  refine ⟨renderers, Renderer.joins_sequence renderers, each.imp fun element renderer boundElement => ?_⟩
  rw [outcome_bind_eq idle]
  exact Binding.plainWithin_mono less.le boundElement

/-- Every sequence inside a value without cycles is bound as if it were alone. -/
theorem exists_bindsJoined_of_reaches (idle : workspace.busy = [])
    (bound : Action.outcome (bind number value) workspace = .ok renderer)
    (acyclic : value.IsAcyclic workspace.heap (workspace.answers number))
    (reaches : value.Reaches workspace.heap (workspace.answers number) inner)
    (isSequence : inner.IsSequenceOf workspace.heap (workspace.answers number) elements) :
    ∃ renderer, workspace.BindsJoined number elements inner renderer := by
  rw [outcome_bind_eq idle] at bound
  obtain ⟨renderer, boundInner⟩ :=
    Binding.exists_plainWithin_of_reaches (Binding.bindsAlike_plainNested _ _ _ _ _) bound
    acyclic reaches
  refine ⟨renderer, bindsJoined_of_bind idle ?_ isSequence (acyclic inner reaches.mayReach)⟩
  rw [outcome_bind_eq idle]
  exact boundInner

/-- An argument that has elements is bound like any other value. -/
theorem exists_bind_of_boundArguments (idle : workspace.busy = []) {given : Option Nat} {values : List Value}
    {arguments : List Renderer} (bound : boundArguments workspace given values = .ok arguments) {index : Nat}
    (found : values[index]? = some value) (opened : workspace.heap.elements? value = some elements) :
    ∃ renderer, arguments[index]? = some renderer ∧
      Action.outcome (bind (given.getD defaultRegistry) value) workspace = .ok renderer := by
  have each := Binding.forall₂_of_mapM_eq_ok bound
  obtain ⟨inside, rfl⟩ := List.getElem?_eq_some_iff.mp found
  have insideArguments : index < arguments.length := each.length_eq ▸ inside
  refine ⟨arguments[index], List.getElem?_eq_getElem insideArguments, ?_⟩
  have boundHere := each.get inside insideArguments
  rw [outcome_bind_eq idle]
  simp only [List.get_eq_getElem] at boundHere
  cases same : values[index] with
  | wrapper carried => rw [same] at opened; cases opened
  | _ => rw [same] at boundHere; exact boundHere

/-- Range options come to the sequence that they are for as they are written.  They are read as what they say,
with nothing to note.  A field that carries them ends at its own closing brace, and it asks for its argument
with these options, in every format string that it is a part of.  If the argument is a sequence without cycles,
then what is laid out in the field is what its elements write by themselves with their part of the options, and
the separator between them.  The same holds of every sequence inside it, with whatever options reach it. -/
theorem renderItem_joins {parts : RangeOptions} {options : Text} (writes : RangeOptions.Writes parts options)
    {index : Text} {layout : Option Text} {body : Text} (carries : Body.Carries ⟨index, layout, options⟩ body) :
    let asked := Body.asked ⟨index, layout, options⟩
    let item := Item.field (Piece.field body).source asked
    RangeOptions.read options = (parts, []) ∧
      ((∀ text, layout = some text → BraceFree text) → BraceFree parts.separator → BraceFree parts.element →
        ∀ rest, Piece.split ('{' :: (body ++ '}' :: rest)) = (.field body, rest)) ∧
      ∀ (workspace : Workspace) (format : Text) (values : List Value) (given : Option Settings)
        (registry : Option Nat) (opened : OpenSession), workspace.busy = [] → workspace.cache.IsSound →
        Action.outcome (openSession format values given registry none) workspace = .ok opened →
        Piece.field body ∈ Piece.splitAll format →
        item ∈ opened.session.parsed.items ∧
          ∀ value elements, values[asked.index]? = some value →
            let number := registry.getD defaultRegistry
            let answer := workspace.answers number
            value.IsSequenceOf workspace.heap answer elements → value.IsAcyclic workspace.heap answer →
              (∃ renderer, workspace.BindsJoined number elements value renderer ∧ ∀ occupancy,
                opened.session.renderItem occupancy item =
                  Repetition.align asked.layout.alignment asked.layout.width [asked.layout.pad]
                    opened.session.measure (renderer.render occupancy options)) ∧
              ∀ inner innerElements, value.Reaches workspace.heap answer inner →
                inner.IsSequenceOf workspace.heap answer innerElements →
                ∃ renderer, workspace.BindsJoined number innerElements inner renderer := by
  intro asked item
  have cut := Body.cut_of_assembles (carries.assembles (RangeOptions.beginsWithMark_of_writes writes))
  refine ⟨RangeOptions.read_of_writes writes, ?_, ?_⟩
  · intro layoutFree separatorFree elementFree rest
    exact Piece.split_field (carries.braceFree layoutFree (writes.braceFree separatorFree elementFree)) rest
  · intro workspace format values given registry opened idle sound opens member
    rcases of_openSession_eq_ok idle sound opens with ⟨bound, reads, _⟩
    constructor
    · have found := Format.field_mem_of_result_parse reads member (cut ▸ carries.numeral)
      rwa [cut] at found
    · intro value elements found number answer isSequence acyclic
      obtain ⟨renderer, foundRenderer, binds⟩ :=
        exists_bind_of_boundArguments idle bound found isSequence.opened
      refine ⟨⟨renderer, bindsJoined_of_bind idle binds isSequence (acyclic value .refl), ?_⟩, ?_⟩
      · exact fun occupancy => Session.renderItem_field foundRenderer occupancy _
      · intro inner innerElements reaches isSequenceInner
        exact exists_bindsJoined_of_reaches idle binds acyclic reaches isSequenceInner

/-- The body of a field with a colon for its pad.  In its options, the separator holds a colon, a comma and an
indicator, and the options for the elements are range options again. -/
def separatorsBody : Text := "0,:-9:$<:,$>@[$(@)]".toList

/-- What the list in the tuple is bound to. -/
def listRenderer : Renderer :=
  .sequence [.ruled .integer (.scalar (.integer 1)), .ruled .integer (.scalar (.integer 20))]

/-- What the tuple is bound to. -/
def tupleRenderer : Renderer := .sequence [listRenderer, .ruled .text (.scalar (.text ['b']))]

/-- A session in which the body is that of a field for the tuple. -/
def separatorsOpened : OpenSession :=
  let asked : Field := ⟨0, ⟨.left, 9, ':'⟩, "$<:,$>@[$(@)]".toList⟩
  ⟨⟨'x' :: (Piece.field separatorsBody).source,
    ⟨0, [.literal ['x'], .field (Piece.field separatorsBody).source asked]⟩, .chars, [tupleRenderer]⟩, none, 0⟩

/-- The list is in the tuple, and nothing is in the list but integers. -/
theorem isAcyclic_listInTuple :
    (Value.container 1).IsAcyclic listInTuple.heap (listInTuple.answers defaultRegistry) := by
  let number := fun value => Value.scalar .integer (.integer value)
  let letter := Value.scalar .text (.text ['b'])
  apply Value.isAcyclic_of_rank Value.rank
  have met : ∀ inner, Value.Reaches listInTuple.heap (listInTuple.answers defaultRegistry) (.container 1) inner →
      inner ∈ [.container 1, .container 0, number 1, number 20, letter] := by
    intro inner reaches
    obtain ⟨visit, visited, rfl⟩ := (Value.isMet_walk_iff _ _).mpr reaches
    have walked : (Value.walk listInTuple.heap (listInTuple.answers defaultRegistry) [] (.container 1)).map
        Visit.value = [.container 1, .container 0, number 1, number 20, letter] := by cbv
    exact walked ▸ List.mem_map_of_mem visited
  have notCustom : ∀ inner ∈ [.container 1, .container 0, number 1, number 20, letter], ∀ provider,
      listInTuple.answers defaultRegistry (listInTuple.heap.typeOf inner) ≠
        some (.provider (.custom provider)) := by
    intro inner member provider
    simp only [List.mem_cons, List.not_mem_nil, or_false] at member
    rcases member with rfl | rfl | rfl | rfl | rfl
    all_goals
      intro custom
      cases custom
  intro outer inner mayReach binds
  have reaches := mayReach.reaches fun inner reaches => notCustom inner (met inner reaches)
  have visited := met outer reaches
  obtain ⟨guard, elements, found, opened, member⟩ | ⟨provider, custom, -⟩ := binds
  case inr => exact absurd custom (notCustom outer visited provider)
  simp only [List.mem_cons, List.not_mem_nil, or_false] at visited
  rcases visited with rfl | rfl | rfl | rfl | rfl
  · obtain rfl : [.container 0, letter] = elements := Option.some.inj opened
    rcases List.mem_pair.mp member with rfl | rfl <;> decide
  · obtain rfl : [number 1, number 20] = elements := Option.some.inj opened
    rcases List.mem_pair.mp member with rfl | rfl <;> decide
  · cases found
  · cases found
  · cases found

theorem renderItem_joins_listInTuple :
    let options := "$<:,$>@[$(@)]".toList
    let number := fun value => Value.scalar .integer (.integer value)
    let elements := [Value.container 0, .scalar .text (.text ['b'])]
    let asked : Field := ⟨0, ⟨.left, 9, ':'⟩, options⟩
    let item := Item.field (Piece.field separatorsBody).source asked
    let answer := listInTuple.answers defaultRegistry
    let occupancy := listInTuple.heap.occupancy
    RangeOptions.Writes ⟨":,$".toList, "$(@)".toList⟩ options ∧
      Body.Carries ⟨['0'], some ":-9".toList, options⟩ separatorsBody ∧
      listInTuple.busy = [] ∧ listInTuple.cache.IsSound ∧
      Action.outcome (openSession separatorsOpened.session.format [.container 1] none none none) listInTuple =
        .ok separatorsOpened ∧
      Piece.field separatorsBody ∈ Piece.splitAll separatorsOpened.session.format ∧
      (Value.container 1).IsSequenceOf listInTuple.heap answer elements ∧
      (Value.container 1).IsAcyclic listInTuple.heap answer ∧
      (∃ renderer, listInTuple.BindsJoined 0 elements (.container 1) renderer ∧
        separatorsOpened.session.renderItem occupancy item =
          Repetition.align .left 9 [':'] .chars (renderer.render occupancy options) ∧
        (renderer.render occupancy options).text = "1@20:,$b".toList) ∧
      (separatorsOpened.session.renderItem occupancy item).text = "1@20:,$b:".toList ∧
      ∃ renderer, listInTuple.BindsJoined 0 [number 1, number 20] (.container 0) renderer ∧
        (renderer.render occupancy "$(@)".toList).text = "1@20".toList := by
  intro options number elements asked item answer occupancy
  have writes : RangeOptions.Writes ⟨":,$".toList, "$(@)".toList⟩ options := by
    have angles : ('<', '>') ∈ RangeOptions.brackets := by decide
    have squares : ('[', ']') ∈ RangeOptions.brackets := by decide
    exact .parts (.given angles (by decide)) (.given squares (by decide))
  have carries : Body.Carries ⟨['0'], some ":-9".toList, options⟩ separatorsBody :=
    .layout rfl (Body.isLayoutPart_of_read? (rfl : Layout.read? ":-9".toList = some asked.layout))
  have sound : listInTuple.cache.IsSound := Format.Cache.isSound_empty
  have opens : Action.outcome (openSession separatorsOpened.session.format [.container 1] none none none)
      listInTuple = .ok separatorsOpened := by cbv
  have member : Piece.field separatorsBody ∈ Piece.splitAll separatorsOpened.session.format := by
    have pieces : Piece.splitAll separatorsOpened.session.format = [.run ['x'], .field separatorsBody] := by cbv
    rw [pieces]
    exact List.mem_cons_of_mem _ List.mem_cons_self
  have isSequence : (Value.container 1).IsSequenceOf listInTuple.heap answer elements := ⟨⟨0, rfl⟩, rfl⟩
  have sameAsked : Body.asked ⟨['0'], some ":-9".toList, options⟩ = asked := by cbv
  rcases renderItem_joins writes carries with ⟨_, _, joins⟩
  rw [sameAsked] at joins
  rcases (joins listInTuple _ _ none none _ rfl sound opens member).2 _ elements rfl isSequence
    isAcyclic_listInTuple with ⟨⟨renderer, binds, renders⟩, bindsInside⟩
  refine ⟨writes, carries, rfl, sound, opens, member, isSequence, isAcyclic_listInTuple,
    ⟨renderer, binds, renders occupancy, ?_⟩, by decide, ?_⟩
  · have bound : Action.outcome (bind 0 (.container 1)) listInTuple = .ok tupleRenderer := by cbv
    obtain rfl : tupleRenderer = renderer := Except.ok.inj (bound.symm.trans binds.1)
    decide
  · have leads := isSequence.leadsTo (List.mem_cons_self : Value.container 0 ∈ elements)
    obtain ⟨renderer, binds⟩ := bindsInside (.container 0) [number 1, number 20] (.single leads) ⟨⟨0, rfl⟩, rfl⟩
    have bound : Action.outcome (bind 0 (.container 0)) listInTuple = .ok listRenderer := by cbv
    obtain rfl : listRenderer = renderer := Except.ok.inj (bound.symm.trans binds.1)
    exact ⟨listRenderer, binds, by decide⟩

end Workspace
end FieldText
