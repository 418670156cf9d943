import FieldText.Proofs.Openings
import FieldText.Proofs.Renderings
import Mathlib

/-!
The text of a session.  The text of a value is defined by the structure of the value alone: a sequence
joins the texts of its elements, and what carries its renderer has the text of it.  A session that
renders without a fault writes the text of its items, with the texts of its arguments in the fields.
-/

namespace FieldText

namespace Value

/-- The text of a value as a function of the options, given what the types resolve to, what becomes of the
values that a preparation asks for, and the values on the way.  A value that is found again inside itself has
the text that stands for it. -/
inductive HasText (heap : Heap) (answer : ArgumentType → Option Resolution)
    (asked : List Identity → Value → Except Fault Renderer) (occupancy : Occupancy) :
    List Identity → Value → (Text → Text) → Prop where
  | carried {path : List Identity} {value : Value}
      (found : answer (heap.typeOf value) = some .intrinsic) :
      HasText heap answer asked occupancy path value (value.carried.text occupancy)
  | method {path : List Identity} {value : Value} {method : Method}
      (found : answer (heap.typeOf value) = some (.method method)) :
      HasText heap answer asked occupancy path value fun options => (method.effect value options).text
  | rule {path : List Identity} {value : Value} {kind : ScalarKind}
      (found : answer (heap.typeOf value) = some (.provider (.scalar kind))) :
      HasText heap answer asked occupancy path value fun options =>
        (kind.render occupancy value.subject options).text
  | custom {path : List Identity} {value : Value} {provider : CustomProvider}
      {renderer : Renderer}
      (found : answer (heap.typeOf value) = some (.provider (.custom provider)))
      (made : (provider.preparation heap value).outcome (asked path) = .ok renderer) :
      HasText heap answer asked occupancy path value (renderer.text occupancy)
  | again {path : List Identity} {value : Value} {guard : Nat}
      (found : answer (heap.typeOf value) = some (.provider (.sequence guard)))
      (among : value.isAmong path = true) :
      HasText heap answer asked occupancy path value fun _ => heap.placeholder value
  | sequence {path : List Identity} {value : Value} {guard : Nat} {elements : List Value}
      {texts : List (Text → Text)}
      (found : answer (heap.typeOf value) = some (.provider (.sequence guard)))
      (opened : heap.elements? value = some elements) (notAmong : value.isAmong path = false)
      (length : elements.length = texts.length)
      (each : ∀ element text, (element, text) ∈ elements.zip texts →
        HasText heap answer asked occupancy (value.enter path) element text) :
      HasText heap answer asked occupancy path value fun options =>
        let parts := (RangeOptions.read options).1
        Text.join parts.separator (texts.map fun text => text parts.element)

/-- The text of an argument of a session.  A wrapper has the text of what was bound when it was made. -/
def HasArgumentText (heap : Heap) (answer : ArgumentType → Option Resolution)
    (asked : List Identity → Value → Except Fault Renderer) (occupancy : Occupancy) : Value → (Text → Text) → Prop
  | wrapper renderer, text => text = renderer.text occupancy
  | value, text => HasText heap answer asked occupancy [] value text

section Unique

variable {heap : Heap} {answer : ArgumentType → Option Resolution}
  {asked : List Identity → Value → Except Fault Renderer} {occupancy : Occupancy}
  {path : List Identity} {value : Value}

/-- Lists are equal when each entry of the one is all that the entry of the other can be. -/
theorem eq_of_forall₂_unique {α β : Type} {relation : α → β → Prop} {inputs : List α}
    {outputs others : List β}
    (unique : List.Forall₂ (fun input output => ∀ other, relation input other → output = other)
      inputs outputs)
    (related : List.Forall₂ relation inputs others) : outputs = others := by
  induction unique generalizing others with
  | nil => exact (List.forall₂_nil_left_iff.mp related).symm
  | cons first _ inductionHypothesis =>
      cases related with
      | cons relatedFirst relatedRest => rw [first _ relatedFirst, inductionHypothesis relatedRest]

/-- What a value resolves to decides how it comes by its text, and so there is no other. -/
theorem HasText.unique {text other : Text → Text} (has : HasText heap answer asked occupancy path value text)
    (hasOther : HasText heap answer asked occupancy path value other) : text = other := by
  induction has generalizing other with
  | carried found =>
      cases hasOther with
      | carried => rfl
      | _ => simp_all
  | method found => cases hasOther <;> simp_all
  | rule found => cases hasOther <;> simp_all
  | custom found made => cases hasOther <;> simp_all
  | again found among =>
      cases hasOther with
      | again => rfl
      | _ => simp_all
  | @sequence path value guard elements texts found opened notAmong length each inductionHypothesis =>
      cases hasOther with
      | @sequence _ _ _ elementsOther textsOther _ openedOther _ lengthOther eachOther =>
          -- Both texts are of the same elements, each of which has only one.
          obtain rfl : elements = elementsOther := Option.some.inj (opened.symm.trans openedOther)
          have related : List.Forall₂ (HasText heap answer asked occupancy (value.enter path)) elements
              textsOther :=
            List.forall₂_iff_zip.mpr ⟨lengthOther, fun member => eachOther _ _ member⟩
          have unique : List.Forall₂ (fun element text => ∀ other,
              HasText heap answer asked occupancy (value.enter path) element other → text = other)
              elements texts :=
            List.forall₂_iff_zip.mpr
              ⟨length, fun member _ hasOther => inductionHypothesis _ _ member hasOther⟩
          rw [eq_of_forall₂_unique unique related]
      | _ => simp_all

theorem HasArgumentText.unique {text other : Text → Text}
    (has : HasArgumentText heap answer asked occupancy value text)
    (hasOther : HasArgumentText heap answer asked occupancy value other) : text = other := by
  cases value with
  | wrapper renderer => exact Eq.trans has (Eq.symm hasOther)
  | _ => exact HasText.unique has hasOther

end Unique

/-- A value has the text of the renderer that it is bound to. -/
theorem hasText_of_binds {heap : Heap} {answer : ArgumentType → Option Resolution}
    {asked : List Identity → Value → Except Fault Renderer} {path : List Identity} {value : Value}
    {renderer : Renderer} (binds : Binding.Binds heap answer asked path value renderer) (occupancy : Occupancy) :
    HasText heap answer asked occupancy path value (renderer.text occupancy) := by
  induction binds with
  | carried found => exact .carried found
  | method found => exact .method found
  | rule found => exact .rule found
  | custom found made => exact .custom found made
  | again found among => exact .again found among
  | @sequence path value guard elements renderers found opened notAmong length _ inductionHypothesis =>
      -- The relation has the texts of the elements in its hands, the function has their renderers.
      have texts : Renderer.text occupancy (.sequence renderers) = fun options =>
          let parts := (RangeOptions.read options).1
          Text.join parts.separator
            ((renderers.map (Renderer.text occupancy)).map fun text => text parts.element) := by
        funext options
        rw [Renderer.text, Renderer.textAll_eq_map]
      rw [texts]
      refine .sequence found opened notAmong (by rw [List.length_map, length]) ?_
      intro element text member
      rw [List.zip_map_right, List.mem_map] at member
      rcases member with ⟨⟨bound, renderer⟩, member, same⟩
      cases same
      exact inductionHypothesis _ _ member

theorem hasArgumentText_of_plainArgument {heap : Heap} {answer : ArgumentType → Option Resolution}
    {room nesting : Nat} {value : Value} {renderer : Renderer}
    (bound : Binding.plainArgument heap answer room nesting value = .ok renderer) (occupancy : Occupancy) :
    HasArgumentText heap answer (Binding.plainNested heap answer room nesting) occupancy value
      (renderer.text occupancy) := by
  cases value with
  | wrapper carried =>
      obtain rfl : carried = renderer := Except.ok.inj bound
      rfl
  | _ => exact hasText_of_binds (Binding.binds_of_plainWithin bound) occupancy

end Value

namespace Workspace

/-- The arguments of a session have one text each, and a rendering of the session that succeeds writes
the text of its items with these texts in the fields.  It does not matter which containers are empty at
the time of rendering, as long as the texts are those of that time. -/
theorem openSession_writes_text {workspace : Workspace} (idle : workspace.busy = []) {format : Text}
    {values : List Value} {given : Option Settings} {number : Option Nat} {items : Option ParsedItems}
    {opened : OpenSession}
    (opens : Action.outcome (openSession format values given number items) workspace = .ok opened)
    (occupancy : Occupancy) :
    let answer := (workspace.registry (number.getD defaultRegistry)).answer? workspace.hierarchy
    let asked := workspace.boundWhenAsked number
    ∃ texts : List (Text → Text),
      (∀ others, List.Forall₂ (Value.HasArgumentText workspace.heap answer asked occupancy) values others ↔
        others = texts) ∧
      (opened.session.render occupancy).Writes
        (opened.session.parsed.items.flatMap (Item.text opened.session.measure texts)) := by
  intro answer asked
  have bound := Binding.forall₂_of_mapM_eq_ok (boundArguments_of_openSession idle opens)
  have texts : List.Forall₂ (Value.HasArgumentText workspace.heap answer asked occupancy) values
      (opened.session.arguments.map (Renderer.text occupancy)) :=
    List.forall₂_map_right_iff.mpr <| bound.imp fun _ _ bound =>
      Value.hasArgumentText_of_plainArgument bound occupancy
  refine ⟨opened.session.arguments.map (Renderer.text occupancy), fun others => ?_, ?_⟩
  · constructor
    · intro related
      have unique : List.Forall₂ (fun value text => ∀ other,
          Value.HasArgumentText workspace.heap answer asked occupancy value other → text = other)
          values (opened.session.arguments.map (Renderer.text occupancy)) :=
        texts.imp fun _ _ has _ hasOther => Value.HasArgumentText.unique has hasOther
      exact (Value.eq_of_forall₂_unique unique related).symm
    · rintro rfl
      exact texts
  · have writes := Renderer.writes_render occupancy opened.session.renderer []
    rwa [Session.renderer, Renderer.text, Renderer.textAll_eq_map] at writes

/-- A workspace with a list of two integers in a tuple that holds a text too. -/
def listInTuple : Workspace :=
  let number := fun value => Value.scalar .integer (.integer value)
  { initial .plain [] with
    heap := ⟨[⟨.list, .list [number 1, number 20]⟩,
      ⟨.tuple, .tuple [.container 0, .scalar .text (.text ['b'])]⟩]⟩ }

/-- A field with options for two levels of sequences, a field for an adapter, and one for an argument
that is missing. -/
def listInTupleOpened : OpenSession :=
  let first : Field := ⟨0, ⟨.left, 9, ' '⟩, "$[;]@[$<+>]".toList⟩
  let items : List Item :=
    [.field "\x7b0,-9:$[;]@[$<+>]\x7d".toList first, .literal ['|'],
      .field "\x7b1,=6\x7d".toList ⟨1, ⟨.center, 6, ' '⟩, []⟩, .field "\x7b7\x7d".toList ⟨7, Layout.unpadded, []⟩]
  let tuple : Renderer :=
    .sequence [.sequence [.ruled .integer (.scalar (.integer 1)), .ruled .integer (.scalar (.integer 20))],
      .ruled .text (.scalar (.text ['b']))]
  ⟨⟨"\x7b0,-9:$[;]@[$<+>]\x7d|\x7b1,=6\x7d\x7b7\x7d".toList, ⟨0, items⟩, .chars,
    [tuple, .repeated (.ruled .text (.scalar (.text ['n', 'o']))) 2]⟩, none, 0⟩

/-- The tuple, and a text that is repeated. -/
def listInTupleValues : List Value :=
  [.container 1, .adapter (.repeated (.ruled .text (.scalar (.text ['n', 'o']))) 2)]

theorem outcome_openSession_listInTuple :
    Action.outcome (openSession listInTupleOpened.session.format listInTupleValues none none none)
      listInTuple = .ok listInTupleOpened := by cbv

theorem openSession_writes_text_listInTuple :
    let answer := (listInTuple.registry defaultRegistry).answer? listInTuple.hierarchy
    let asked := listInTuple.boundWhenAsked none
    let occupancy := listInTuple.heap.occupancy
    listInTuple.busy = [] ∧
      Action.outcome (openSession listInTupleOpened.session.format listInTupleValues none none none)
          listInTuple = .ok listInTupleOpened ∧
      ∃ texts,
        List.Forall₂ (Value.HasArgumentText listInTuple.heap answer asked occupancy) listInTupleValues texts ∧
          listInTupleOpened.session.parsed.items.flatMap (Item.text .chars texts) =
            "1+20;b   | nono \x7b7\x7d".toList := by
  intro answer asked occupancy
  obtain ⟨texts, unique, writes⟩ :=
    openSession_writes_text rfl outcome_openSession_listInTuple occupancy
  exact ⟨rfl, outcome_openSession_listInTuple, texts, (unique texts).mpr rfl,
    (writes (by decide)).symm.trans (by decide)⟩

end Workspace
end FieldText
