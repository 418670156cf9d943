import FieldText.Proofs.Refusals
import FieldText.Proofs.Sessions
import FieldText.Proofs.Texts

/-!
Wrapped values.  To wrap a value is to bind it now, and to use it later as it was bound.  Where an argument is
bound, or the item of an adapter, a wrapper is used as it is, and so nothing changes when a value is replaced
by its wrapper there.  The elements of containers are bound in another way, in which a wrapper is a value like
any other: its type has to be resolved.  A session that goes through an element which was replaced by its
wrapper does not open for want of a provider, unless one is assigned to wrappers.  Providers of the user may look
into the container too when they prepare a value; it is assumed that they get along with the wrapper.
-/

namespace FieldText

/-! ## Replacing an element -/

namespace Container

theorem Content.elements_withElements {content : Content}
    (notRange : ∀ start stop step, content ≠ .range start stop step) (others : List Value) :
    (content.withElements others).elements = others := by
  cases content with
  | range start stop step => exact absurd rfl (notRange start stop step)
  | _ => rfl

end Container

namespace Heap

theorem get?_modify (heap : Heap) (changed : Nat) (change : Container → Container) (place : Nat) :
    (heap.modify changed change).get? place =
      if changed = place then (heap.get? place).map change else heap.get? place := by
  simp only [get?, modify, List.getElem?_modify]
  split <;> simp

/-- A heap is as before, except that one element of a container was replaced. -/
structure Replaces (before after : Heap) (place index : Nat) (value : Value) : Prop where
  typeOf : ∀ other, after.typeOf other = before.typeOf other
  elsewhere : ∀ other, other ≠ .container place → after.elements? other = before.elements? other
  there : ∃ elements, index < elements.length ∧ before.elements? (.container place) = some elements ∧
    after.elements? (.container place) = some (elements.set index value)

theorem replaces_modify {heap : Heap} {place index : Nat} {container : Container}
    (found : heap.get? place = some container)
    (notRange : ∀ start stop step, container.content ≠ .range start stop step)
    (inside : index < container.elements.length) (value : Value) :
    heap.Replaces (heap.modify place (Container.withElements (container.elements.set index value))) place
      index value where
  typeOf other := by
    cases other with
    | container asked =>
        simp only [Heap.typeOf, get?_modify]
        split
        · cases heap.get? asked <;> rfl
        · rfl
    | _ => rfl
  elsewhere other different := by
    cases other with
    | container asked =>
        have apart : place ≠ asked := fun same => different (by rw [same])
        simp only [elements?, get?_modify, if_neg apart]
    | scalar type content => cases content <;> rfl
    | _ => rfl
  there := by
    refine ⟨container.elements, inside, ?_, ?_⟩
    · simp only [elements?, found, Option.map_some]
    · simp only [elements?, get?_modify, found, if_true, Option.map_some]
      exact congrArg some (Container.Content.elements_withElements notRange _)

end Heap

/-! ## The walk through a replaced element -/

namespace Value

variable {before after : Heap} {answer : ArgumentType → Option Resolution} {place index : Nat}
  {values : List Value} {start outer inner value : Value} {renderer : Renderer}

/-- To replace an element neither puts an obstacle into the way of another value nor removes one, as long as no
provider of the user has to prepare that value. -/
theorem obstacle?_of_replaces (replaces : before.Replaces after place index value)
    {asked askedAfter : List Identity → Value → Except Fault Renderer} {visit earlier : Visit}
    (same : earlier.value = visit.value)
    (notCustom : ∀ provider, answer (after.typeOf visit.value) ≠ some (.provider (.custom provider))) :
    visit.obstacle? after answer askedAfter = earlier.obstacle? before answer asked := by
  have opens : (after.elements? visit.value).isNone = (before.elements? visit.value).isNone := by
    by_cases changed : visit.value = .container place
    · obtain ⟨elements, -, openedBefore, openedAfter⟩ := replaces.there
      rw [changed, openedBefore, openedAfter]
      rfl
    · rw [replaces.elsewhere visit.value changed]
  rw [replaces.typeOf] at notCustom
  unfold Visit.obstacle?
  rw [same, replaces.typeOf, opens]
  split
  · rfl
  · next provider found => exact absurd found (notCustom provider)
  · rfl
  · rfl

/-- Nothing leads to other values than before, but to the one that was put in. -/
theorem eq_or_leadsTo_of_replaces (replaces : before.Replaces after place index value)
    (leads : LeadsTo after answer outer inner) : inner = value ∨ LeadsTo before answer outer inner := by
  obtain ⟨guard, elements, found, opened, member⟩ := leads
  rw [replaces.typeOf] at found
  by_cases same : outer = .container place
  · subst same
    obtain ⟨original, -, openedBefore, openedAfter⟩ := replaces.there
    obtain rfl : original.set index value = elements := Option.some.inj (openedAfter.symm.trans opened)
    rcases List.mem_or_eq_of_mem_set member with earlier | put
    · exact Or.inr ⟨guard, original, found, openedBefore, earlier⟩
    · exact Or.inl put
  · exact Or.inr ⟨guard, elements, found, (replaces.elsewhere outer same).symm.trans opened, member⟩

theorem leadsTo_of_replaces (replaces : before.Replaces after place index value)
    (different : outer ≠ .container place) (leads : LeadsTo before answer outer inner) :
    LeadsTo after answer outer inner := by
  obtain ⟨guard, elements, found, opened, member⟩ := leads
  exact ⟨guard, elements, (congrArg answer (replaces.typeOf outer)).trans found,
    (replaces.elsewhere outer different).trans opened, member⟩

/-- A wrapper has no elements, whatever its type resolves to. -/
theorem not_leadsTo_of_wrapper {heap : Heap} : ¬ LeadsTo heap answer (.wrapper renderer) inner := by
  rintro ⟨_, _, _, opened, _⟩
  cases opened

/-- A wrapper that is put in does not lead on, so that everything else could be reached before. -/
theorem eq_or_reaches_of_replaces (replaces : before.Replaces after place index (.wrapper renderer))
    (reaches : Reaches after answer start inner) :
    inner = .wrapper renderer ∨ Reaches before answer start inner := by
  induction reaches with
  | refl => exact Or.inr .refl
  | tail _ leads earlier =>
      rcases eq_or_leadsTo_of_replaces replaces leads with put | leads
      · exact Or.inl put
      · rcases earlier with rfl | reaches
        · exact absurd leads not_leadsTo_of_wrapper
        · exact Or.inr (reaches.tail leads)

/-- The container can still be reached, because nothing was changed on the way up to it. -/
theorem reaches_container_of_replaces (replaces : before.Replaces after place index value)
    (reaches : Reaches before answer start (.container place)) :
    Reaches after answer start (.container place) := by
  induction reaches using Relation.ReflTransGen.head_induction_on with
  | refl => exact .refl
  | @head outer inner leads _ later =>
      by_cases same : outer = .container place
      · rw [same]
        exact .refl
      · exact .head (leadsTo_of_replaces replaces same leads) later

/-- A value stands in a container, which is no range and is gone through when the arguments of a session are
bound, at any depth. -/
structure StandsIn (heap : Heap) (answer : ArgumentType → Option Resolution) (values : List Value)
    (place index : Nat) (container : Container) (value : Value) : Prop where
  found : heap.get? place = some container
  notRange : ∀ start stop step, container.content ≠ .range start stop step
  element : container.elements[index]? = some value
  reached : IsReachedFrom heap answer values (.container place)
  entered : ∃ guard, answer container.type = some (.provider (.sequence guard))

theorem StandsIn.replaces {heap : Heap} {container : Container}
    (stands : StandsIn heap answer values place index container value) (other : Value) :
    heap.Replaces (heap.modify place (Container.withElements (container.elements.set index other))) place
      index other :=
  Heap.replaces_modify stands.found stands.notRange (List.getElem?_eq_some_iff.mp stands.element).1 other

/-- The wrapper is met, and whatever else is met was met before. -/
theorem StandsIn.isMet_iff {heap : Heap} {container : Container}
    (stands : StandsIn heap answer values place index container value) (renderer : Renderer) :
    let after := heap.modify place
      (Container.withElements (container.elements.set index (.wrapper renderer)))
    let visits := values.flatMap (walkArgument after answer)
    IsMet visits (.wrapper renderer) ∧ ∀ other, IsMet visits other →
      other = .wrapper renderer ∨ IsMet (values.flatMap (walkArgument heap answer)) other := by
  intro after visits
  have replaces := stands.replaces (.wrapper renderer)
  constructor
  · obtain ⟨elements, inside, -, opened⟩ := replaces.there
    obtain ⟨argument, member, notWrapper, reaches⟩ := stands.reached
    obtain ⟨guard, found⟩ := stands.entered
    have type : after.typeOf (.container place) = container.type := by
      rw [replaces.typeOf, Heap.typeOf, stands.found]
      rfl
    refine isMet_flatMap_walkArgument_iff.mpr ⟨argument, member, notWrapper, ?_⟩
    exact (reaches_container_of_replaces replaces reaches).tail
      ⟨guard, _, (congrArg answer type).trans found, opened, List.mem_set inside _⟩
  · intro other met
    obtain ⟨argument, member, notWrapper, reaches⟩ := isMet_flatMap_walkArgument_iff.mp met
    exact (eq_or_reaches_of_replaces replaces reaches).imp_right fun reaches =>
      isMet_flatMap_walkArgument_iff.mpr ⟨argument, member, notWrapper, reaches⟩

/-- If nothing was in the way before, and providers of the user can still prepare what they are met at, then
nothing can be in the way but the wrapper. -/
theorem StandsIn.findSome?_obstacle_iff {heap : Heap} {container : Container}
    (stands : StandsIn heap answer values place index container value)
    {asked askedAfter : List Identity → Value → Except Fault Renderer}
    (clear : (values.flatMap (walkArgument heap answer)).findSome? (Visit.obstacle? heap answer asked) = none)
    (renderer : Renderer) :
    let after := heap.modify place
      (Container.withElements (container.elements.set index (.wrapper renderer)))
    let visits := values.flatMap (walkArgument after answer)
    (∀ visit ∈ visits, ∀ provider, answer (after.typeOf visit.value) = some (.provider (.custom provider)) →
      visit.obstacle? after answer askedAfter = none) →
      (visits.findSome? (Visit.obstacle? after answer askedAfter) = some (.unsupportedType .wrapper) ↔
        answer .wrapper = none) := by
  intro after visits undisturbed
  obtain ⟨⟨wrapped, wrappedMet, isWrapper⟩, earlier⟩ := stands.isMet_iff renderer
  have wrapper_of_obstacle : ∀ visit ∈ visits, ∀ fault,
      visit.obstacle? after answer askedAfter = some fault → visit.value = .wrapper renderer := by
    intro visit met fault obstacle
    by_contra different
    obtain ⟨before, metBefore, same⟩ := (earlier _ ⟨visit, met, rfl⟩).resolve_left different
    have notCustom : ∀ provider, answer (after.typeOf visit.value) ≠ some (.provider (.custom provider)) := by
      intro provider custom
      cases (undisturbed visit met provider custom).symm.trans obstacle
    have before := List.findSome?_eq_none_iff.mp clear before metBefore
    rw [← obstacle?_of_replaces (stands.replaces (.wrapper renderer)) same notCustom] at before
    cases before.symm.trans obstacle
  have obstacle_iff : ∀ visit ∈ visits, visit.value = .wrapper renderer →
      (visit.obstacle? after answer askedAfter = some (.unsupportedType .wrapper) ↔ answer .wrapper = none) := by
    intro visit met isWrapper
    rw [Visit.obstacle?_eq_unsupportedType_iff, isWrapper]
    constructor
    · rintro (⟨missing, -⟩ | fails)
      · exact missing
      · obtain ⟨provider, _, custom, -⟩ := id fails
        have prepared := undisturbed visit met provider custom
        cases prepared.symm.trans (Visit.obstacle?_eq_unsupportedType_iff.mpr (Or.inr fails))
    · exact fun missing => Or.inl ⟨missing, rfl⟩
  constructor
  · intro first
    obtain ⟨visit, met, obstacle⟩ := List.exists_of_findSome?_eq_some first
    exact (obstacle_iff visit met (wrapper_of_obstacle visit met _ obstacle)).mp obstacle
  · intro missing
    have blocked : (visits.findSome? (Visit.obstacle? after answer askedAfter)).isSome :=
      List.findSome?_isSome_iff.mpr
        ⟨wrapped, wrappedMet, by rw [(obstacle_iff wrapped wrappedMet isWrapper).mpr missing]; rfl⟩
    obtain ⟨fault, first⟩ := Option.isSome_iff_exists.mp blocked
    obtain ⟨visit, met, obstacle⟩ := List.exists_of_findSome?_eq_some first
    have isWrapper := wrapper_of_obstacle visit met fault obstacle
    exact first.trans (obstacle.symm.trans ((obstacle_iff visit met isWrapper).mpr missing))

end Value

namespace Binding

/-- Something is made of every input, and it does not matter which of two inputs of which the same is made. -/
theorem mapM_set_of_eq {α β : Type} {make : α → Except Fault β} {inputs : List α} {index : Nat}
    {input other : α} (found : inputs[index]? = some input) (same : make other = make input) :
    (inputs.set index other).mapM make = inputs.mapM make := by
  induction inputs generalizing index with
  | nil => rfl
  | cons first rest inductionHypothesis =>
      cases index with
      | zero =>
          obtain rfl : first = input := Option.some.inj found
          rw [List.set_cons_zero, List.mapM_cons, List.mapM_cons, same]
      | succ index => rw [List.set_cons_succ, List.mapM_cons, List.mapM_cons, inductionHypothesis found]

end Binding

namespace Workspace

variable {workspace before after : Workspace} {format : Text} {values : List Value}
  {given : Option Settings} {number : Option Nat} {value wrapper : Value}

/-! ## Sessions after a value was wrapped -/

/-- A workspace after another one, in which nothing has become of what decides about a session. -/
structure Reopens (number : Option Nat) (before after : Workspace) : Prop extends Keeps before after where
  registry : (before.registry (number.getD defaultRegistry)).Agrees before.hierarchy
    (after.registry (number.getD defaultRegistry))
  cache : after.cache = before.cache
  settings : after.settings = before.settings
  environment : after.environment = before.environment

theorem Reopens.boundArguments (reopens : Reopens number before after) (values : List Value) :
    Workspace.boundArguments after number values = Workspace.boundArguments before number values := by
  simp only [Workspace.boundArguments, Binding.depthBound, world, reopens.host, reopens.heap,
    reopens.hierarchy, reopens.registry.answers, reopens.registry.providers]

theorem Reopens.outcome_openSession (reopens : Reopens number before after) (idle : before.busy = [])
    {others : List Value}
    (same : Workspace.boundArguments before number others = Workspace.boundArguments before number values) :
    Action.outcome (openSession format others given number none) after =
      Action.outcome (openSession format values given number none) before := by
  rw [Workspace.outcome_openSession (reopens.busy.trans idle), Workspace.outcome_openSession idle,
    reopens.boundArguments, same]
  simp only [outcome_openWith, settingsFor, defaultSettings, measure?, reopens.host, reopens.cache,
    reopens.settings, reopens.environment]

theorem outcome_wrap (idle : workspace.busy = []) (number : Option Nat) (value : Value) :
    Action.outcome (wrap number value) workspace =
      Binding.plainArgument workspace.heap
        ((workspace.registry (number.getD defaultRegistry)).answer? workspace.hierarchy)
        (Binding.depthBound workspace.world (workspace.registry (number.getD defaultRegistry)))
        workspace.host.nesting value :=
  Binding.bindArgument_fst value ⟨.refl _ _, idle⟩

theorem reopens_wrap (number : Option Nat) (value : Value) (workspace : Workspace) :
    Reopens number workspace (Action.after (wrap number value) workspace) := by
  let state : BindingState := ⟨workspace.registry (number.getD defaultRegistry), workspace.busy, []⟩
  have keeps := Binding.keeping_bindArgument workspace.world value state
  have replaced : (Action.after (wrap number value) workspace).registries =
      workspace.registries.set (number.getD defaultRegistry)
        (Binding.bindArgument workspace.world value state).2.registry := rfl
  refine ⟨⟨rfl, rfl, rfl, keeps.busy⟩, ?_, rfl, rfl, rfl⟩
  rw [registry_of_registries_set replaced]
  split
  · exact keeps.registry
  · exact .refl _ _

theorem after_makeWrapper (number : Option Nat) (value : Value) (workspace : Workspace) :
    Action.after (makeWrapper number value) workspace = Action.after (wrap number value) workspace := by
  rw [makeWrapper, Action.after_bind]
  cases Action.outcome (wrap number value) workspace <;> rfl

/-- A wrapper carries what its value is bound to. -/
theorem exists_of_makeWrapper (wraps : Action.outcome (makeWrapper number value) workspace = .ok wrapper) :
    ∃ renderer, wrapper = .wrapper renderer ∧
      Action.outcome (wrap number value) workspace = .ok renderer := by
  rw [makeWrapper, Action.outcome_bind] at wraps
  cases bound : Action.outcome (wrap number value) workspace with
  | error fault => rw [bound] at wraps; cases wraps
  | ok renderer => rw [bound] at wraps; cases wraps; exact ⟨renderer, rfl, rfl⟩

/-- Open a session and render it. -/
def openAndRender (format : Text) (values : List Value) (given : Option Settings) (number : Option Nat) :
    Action Rendering := do
  renderSession (← openSession format values given number none)

/-- What is rendered is decided by the session, and by which containers hold anything. -/
theorem outcome_openAndRender (format : Text) (values : List Value) (given : Option Settings)
    (number : Option Nat) (workspace : Workspace) :
    Action.outcome (openAndRender format values given number) workspace =
      (Action.outcome (openSession format values given number none) workspace).map fun opened =>
        opened.session.render workspace.heap.occupancy := by
  have keeps := keeps_openSession format values given number none workspace
  rw [openAndRender, Action.outcome_bind]
  cases Action.outcome (openSession format values given number none) workspace with
  | error fault => rfl
  | ok opened =>
      exact congrArg (fun heap => Except.ok (opened.session.render (Heap.occupancy heap))) keeps.heap

theorem openAndRender_eq_unsupportedType_iff (idle : workspace.busy = []) (type : ArgumentType) :
    Action.outcome (openAndRender format values given number) workspace = .error (.unsupportedType type) ↔
      Binding.faultOf (boundArguments workspace number values) = some (.unsupportedType type) := by
  rw [outcome_openAndRender, Binding.faultOf_eq_some_iff, ← openSession_eq_unsupportedType_iff idle,
    ← Binding.faultOf_eq_some_iff, Binding.faultOf_map, Binding.faultOf_eq_some_iff]

/-- An argument can be replaced by a wrapper of what it is bound to. -/
theorem Reopens.outcome_openAndRender_set (reopens : Reopens number before after) (idle : before.busy = [])
    {renderer : Renderer} (bound : Action.outcome (wrap number value) before = .ok renderer) {index : Nat}
    (found : values[index]? = some value) (format : Text) (given : Option Settings) :
    Action.outcome (openAndRender format (values.set index (.wrapper renderer)) given number) after =
      Action.outcome (openAndRender format values given number) before := by
  rw [outcome_wrap idle] at bound
  have same : Workspace.boundArguments before number (values.set index (.wrapper renderer)) =
      Workspace.boundArguments before number values :=
    Binding.mapM_set_of_eq found (Eq.trans rfl bound.symm)
  rw [outcome_openAndRender, outcome_openAndRender, reopens.outcome_openSession idle same, reopens.heap]

/-- When the values are bound, the providers of the user can prepare whatever they are met at. -/
def CanPrepare (workspace : Workspace) (number : Option Nat) (answer : ArgumentType → Option Resolution)
    (values : List Value) : Prop :=
  ∀ visit ∈ values.flatMap (Value.walkArgument workspace.heap answer),
    ∀ provider, answer (workspace.heap.typeOf visit.value) = some (.provider (.custom provider)) →
      visit.obstacle? workspace.heap answer (workspace.boundWhenAsked number) = none

/-- When an element that stands in an argument is replaced by a wrapper, then the session wants a provider for
wrappers, unless there is one. -/
theorem openAndRender_of_fill (idle : workspace.busy = []) {assigned : Assignment}
    (follows : (workspace.registry (number.getD defaultRegistry)).Follows workspace.hierarchy assigned)
    {place index : Nat} {container : Container}
    (stands : Value.StandsIn workspace.heap (assigned.resolution? workspace.hierarchy) values place index
      container value)
    (clear : Binding.faultOf (boundArguments workspace number values) = none) (renderer : Renderer)
    (prepares : (Action.after (fill place (container.elements.set index (.wrapper renderer)))
      workspace).CanPrepare number (assigned.resolution? workspace.hierarchy) values)
    (format : Text) (given : Option Settings) :
    Action.outcome (fill place (container.elements.set index (.wrapper renderer)) >>= fun _ =>
        openAndRender format values given number) workspace = .error (.unsupportedType .wrapper) ↔
      assigned.resolution? workspace.hierarchy .wrapper = none := by
  let filled := Action.after (fill place (container.elements.set index (.wrapper renderer))) workspace
  have idleFilled : filled.busy = [] := idle
  have followsFilled : (filled.registry (number.getD defaultRegistry)).Follows filled.hierarchy assigned :=
    follows
  change Action.outcome (openAndRender format values given number) filled = _ ↔ _
  have clearVisits := (faultOf_boundArguments follows values).symm.trans clear
  rw [openAndRender_eq_unsupportedType_iff idleFilled, faultOf_boundArguments followsFilled values]
  exact stands.findSome?_obstacle_iff clearVisits renderer prepares

/-- A wrapper is as good as its value wherever an argument is bound, or the item of an adapter: it is bound to
the same, and a session with the wrapper in the place of the value opens or fails as before and renders the
same, whatever the format string.  An element of a container cannot be replaced in this way.  If the arguments
could be bound before, and the providers of the user can prepare what they are met at, then a session that goes
through the container wants a provider for wrappers, unless the registry has one. -/
theorem openAndRender_of_makeWrapper (workspace : Workspace) (history : List Operation) (format : Text)
    (values : List Value) (given : Option Settings) (number : Option Nat) (value wrapper : Value) :
    let answer := ((Ledger.ofHistory history).assigned (number.getD defaultRegistry)).resolution?
      workspace.hierarchy
    let now := Operation.performAll history workspace.cleared
    let later := Action.after (makeWrapper number value) now
    Action.outcome (makeWrapper number value) now = .ok wrapper →
      Action.outcome (wrap number wrapper) later = Action.outcome (wrap number value) now ∧
      (∀ index, values[index]? = some value →
        Action.outcome (openAndRender format (values.set index wrapper) given number) later =
          Action.outcome (openAndRender format values given number) now) ∧
      ∀ place index container, Value.StandsIn workspace.heap answer values place index container value →
        (∃ arguments, Action.outcome (wrapAll number values) now = .ok arguments) →
        let filling := fill place (container.elements.set index wrapper)
        (Action.after filling later).CanPrepare number answer values →
          (Action.outcome (filling >>= fun _ => openAndRender format values given number) later =
              .error (.unsupportedType .wrapper) ↔
            answer .wrapper = none) := by
  intro answer now later wraps
  have idle : now.busy = [] := Operation.busy_performAll history workspace.cleared
  have heap : now.heap = workspace.heap := Operation.heap_performAll history workspace.cleared
  have hierarchy : now.hierarchy = workspace.hierarchy := Operation.hierarchy_performAll history workspace.cleared
  have reopens : Reopens number now later := by
    rw [show later = _ from after_makeWrapper number value now]
    exact reopens_wrap number value now
  obtain ⟨renderer, rfl, bound⟩ := exists_of_makeWrapper wraps
  refine ⟨?_, fun index found => ?_, ?_⟩
  · rw [bound, outcome_wrap (reopens.busy.trans idle)]
    rfl
  · exact reopens.outcome_openAndRender_set idle bound found format given
  · intro place index container stands binds filling prepares
    obtain ⟨arguments, binds⟩ := binds
    rw [outcome_wrapAll idle, ← reopens.boundArguments] at binds
    have follows := ((isRecordedBy_ofHistory workspace history).follows (number.getD defaultRegistry)).agrees
      reopens.registry
    have answers : ((Ledger.ofHistory history).assigned (number.getD defaultRegistry)).resolution?
        later.hierarchy = answer := by
      rw [reopens.hierarchy.trans hierarchy]
    rw [← reopens.hierarchy] at follows
    rw [← reopens.heap.trans heap, ← answers] at stands
    rw [← answers] at prepares ⊢
    exact openAndRender_of_fill (reopens.busy.trans idle) follows stands (by rw [binds]; rfl) renderer prepares
      format given

/-- An integer that is an argument, and stands in a list in a tuple that is another one. -/
def twenty : Value := .scalar .integer (.integer 20)

/-- What the integer is wrapped to. -/
def wrappedTwenty : Value := .wrapper (.ruled .integer (.scalar (.integer 20)))

theorem openAndRender_of_makeWrapper_listInTuple :
    let history : List Operation := [.create (Registry.builtinProviders 0)]
    let answer := ((Ledger.ofHistory history).assigned 0).resolution? listInTuple.hierarchy
    let now := Operation.performAll history listInTuple.cleared
    let later := Action.after (makeWrapper none twenty) now
    let rendered := openAndRender "\x7b0\x7d|\x7b1,4\x7d".toList
    let list : Container := ⟨.list, .list [.scalar .integer (.integer 1), twenty]⟩
    let filling := fill 0 (list.elements.set 1 wrappedTwenty)
    Action.outcome (makeWrapper none twenty) now = .ok wrappedTwenty ∧
      (Action.outcome (rendered [.container 1, wrappedTwenty] none none) later).map Rendering.text =
        .ok "1, 20, b|  20".toList ∧
      Value.StandsIn listInTuple.heap answer [.container 1, twenty] 0 1 list twenty ∧
      (∃ arguments, Action.outcome (wrapAll none [.container 1, twenty]) now = .ok arguments) ∧
      (Action.after filling later).CanPrepare none answer [.container 1, twenty] ∧
      Action.outcome (filling >>= fun _ => rendered [.container 1, twenty] none none) later =
        .error (.unsupportedType .wrapper) := by
  intro history answer now later rendered list filling
  have wraps : Action.outcome (makeWrapper none twenty) now = .ok wrappedTwenty := rfl
  obtain ⟨-, argument, element⟩ := openAndRender_of_makeWrapper listInTuple history
    "\x7b0\x7d|\x7b1,4\x7d".toList [.container 1, twenty] none none twenty wrappedTwenty wraps
  have reached : Value.IsReachedFrom listInTuple.heap answer [.container 1, twenty] (.container 0) :=
    ⟨.container 1, List.mem_cons_self, fun _ => nofun, .single ⟨0, _, rfl, rfl, List.mem_cons_self⟩⟩
  have stands : Value.StandsIn listInTuple.heap answer [.container 1, twenty] 0 1 list twenty :=
    ⟨rfl, fun _ _ _ => nofun, rfl, reached, ⟨0, rfl⟩⟩
  have binds : ∃ arguments, Action.outcome (wrapAll none [.container 1, twenty]) now = .ok arguments :=
    ⟨_, rfl⟩
  have prepares : (Action.after filling later).CanPrepare none answer [.container 1, twenty] := by
    intro visit _ provider custom
    cases type : (Action.after filling later).heap.typeOf visit.value
    all_goals
      rw [type] at custom
      cases custom
  refine ⟨wraps, ?_, stands, binds, prepares, (element 0 1 list stands binds prepares).mpr rfl⟩
  exact (congrArg (Except.map Rendering.text) (argument 1 rfl)).trans (by cbv)

/-- An element of a list cannot be replaced by its wrapper as an argument can. -/
theorem not_openAndRender_of_makeWrapper_inList :
    ¬ ∀ (workspace : Workspace) (format : Text) (values : List Value) (place index : Nat)
        (elements : List Value) (value wrapper : Value),
      workspace.busy = [] → .container place ∈ values →
      workspace.heap.elements? (.container place) = some elements → elements[index]? = some value →
      Action.outcome (makeWrapper none value) workspace = .ok wrapper →
        Action.outcome (fill place (elements.set index wrapper) >>= fun _ =>
            openAndRender format values none none) (Action.after (makeWrapper none value) workspace) =
          Action.outcome (openAndRender format values none none) workspace := by
  intro transparent
  let workspace : Workspace := { initial .plain [] with heap := ⟨[⟨.list, .list [twenty]⟩]⟩ }
  have same := transparent workspace "\x7b0\x7d".toList [.container 0] 0 0 [twenty] twenty wrappedTwenty rfl
    List.mem_cons_self rfl rfl rfl
  have fails : Action.outcome (fill 0 [wrappedTwenty] >>= fun _ =>
      openAndRender "\x7b0\x7d".toList [.container 0] none none)
        (Action.after (makeWrapper none twenty) workspace) = .error (.unsupportedType .wrapper) := by cbv
  have renders : (Action.outcome (openAndRender "\x7b0\x7d".toList [.container 0] none none) workspace).map
      Rendering.text = .ok "20".toList := by cbv
  cases (congrArg (Except.map Rendering.text) (fails.symm.trans same)).trans renders

end Workspace

end FieldText
