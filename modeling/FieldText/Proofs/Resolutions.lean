import FieldText.Proofs.Histories
import Mathlib.Logic.Function.Basic

/-!
What a registry remembers is never out of date.  A ledger follows a history and holds, for every
registry, the providers that are assigned to the types now; nothing is remembered in it.  Whatever was
registered, taken away, copied, resolved or bound before, in this registry or in others, a type is
resolved as the ledger says: to the method of the first type of its linearization that says anything
about one, or else to the provider of the first type that has one.  Only a metatype can get in between,
since the type itself is asked for the method.

The linearizations are those of any hierarchy, which does not change in a history.  A registry takes no
notice of a method that is set later.
-/

namespace FieldText

/-! ## Resolution without memory -/

/-- The providers that are assigned to the types. -/
abbrev Assignment := ArgumentType → Option Provider

/-- What the types of the linearization of a type say about the method, in order. -/
def Hierarchy.saidAlong (hierarchy : Hierarchy) (type : ArgumentType) : List OwnMethod :=
  (hierarchy.linearization type).map hierarchy.own

/-- All that is said about the method of a type, in the order in which it counts. -/
def Hierarchy.said (hierarchy : Hierarchy) (type : ArgumentType) : List OwnMethod :=
  (hierarchy.metatype type).before :: hierarchy.saidAlong type ++ [(hierarchy.metatype type).after]

namespace Assignment

/-- What a type resolves to, given what is said about its method.  The first that says anything decides
whether there is one, and a provider is looked for along the linearization only if there is none. -/
def resolutionAmong? (assigned : Assignment) (hierarchy : Hierarchy) (type : ArgumentType)
    (said : List OwnMethod) : Option Resolution :=
  match said.find? OwnMethod.isSaid with
  | some .carried => some .intrinsic
  | some (.defined method) => some (.method method)
  | _ => ((hierarchy.linearization type).findSome? assigned).map Resolution.provider

/-- What a type resolves to. -/
def resolution? (assigned : Assignment) (hierarchy : Hierarchy) (type : ArgumentType) :
    Option Resolution :=
  assigned.resolutionAmong? hierarchy type (hierarchy.said type)

end Assignment

/-- A resolution, or the fault that there is none for a type. -/
def Resolution.orUnsupported (type : ArgumentType) : Option Resolution → Except Fault Resolution
  | some resolution => .ok resolution
  | none => .error (.unsupportedType type)

namespace Hierarchy

theorem orElse_eq_find? (first : OwnMethod) (rest : List OwnMethod) :
    first.orElse ((rest.find? OwnMethod.isSaid).getD .unset) =
      ((first :: rest).find? OwnMethod.isSaid).getD .unset := by
  cases first <;> rfl

theorem methodAlong_eq_find? (hierarchy : Hierarchy) (order : List ArgumentType) :
    hierarchy.methodAlong order =
      ((order.map hierarchy.own).find? OwnMethod.isSaid).getD .unset := by
  induction order with
  | nil => rfl
  | cons type rest inductionHypothesis =>
      rw [methodAlong, inductionHypothesis, orElse_eq_find?, List.map_cons]

theorem find?_orElse (said : List OwnMethod) (last : OwnMethod) :
    ((said.find? OwnMethod.isSaid).getD .unset).orElse last =
      ((said ++ [last]).find? OwnMethod.isSaid).getD .unset := by
  rw [List.find?_append]
  cases found : said.find? OwnMethod.isSaid with
  | none => cases last <;> rfl
  | some first =>
      have isSaid := List.find?_some found
      cases first with
      | unset => cases isSaid
      | _ => rfl

/-- The method of a type is the first that is said about it. -/
theorem method_eq_find? (hierarchy : Hierarchy) (type : ArgumentType) :
    hierarchy.method type = ((hierarchy.said type).find? OwnMethod.isSaid).getD .unset := by
  rw [method, instanceMethod, methodAlong_eq_find?, find?_orElse, orElse_eq_find?]
  rfl

end Hierarchy

namespace ProviderMap

/-- The providers that a map assigns. -/
def assigned (providers : ProviderMap) : Assignment := fun type => providers.lookup type

theorem assigned_cons (entry : ArgumentType × Provider) (providers : ProviderMap) :
    assigned (entry :: providers) = Function.update (assigned providers) entry.1 (some entry.2) := by
  funext type
  rcases entry with ⟨key, held⟩
  rw [Function.update_apply]
  by_cases same : type = key
  · simp [assigned, same]
  · simp [assigned, List.lookup_cons, same, beq_eq_false_iff_ne.mpr same]

theorem assigned_assign (providers : ProviderMap) (type : ArgumentType) (provider : Provider) :
    assigned (assign type provider providers) =
      Function.update (assigned providers) type (some provider) := by
  induction providers with
  | nil => exact assigned_cons (type, provider) []
  | cons entry rest inductionHypothesis =>
      by_cases same : entry.1 = type
      · -- The new provider stands where the old one stood, which no lookup can tell.
        rw [assign, if_pos same, assigned_cons, assigned_cons, same, Function.update_idem]
      · rw [assign, if_neg same, assigned_cons, assigned_cons, inductionHypothesis,
          Function.update_comm same]

theorem assigned_remove (providers : ProviderMap) (type : ArgumentType) :
    assigned (remove type providers) = Function.update (assigned providers) type none := by
  unfold remove
  induction providers with
  | nil =>
      funext other
      by_cases same : other = type <;> simp [assigned, same]
  | cons entry rest inductionHypothesis =>
      by_cases same : entry.1 = type
      · rw [List.filter_cons_of_neg (by simpa using same), inductionHypothesis, assigned_cons, same,
          Function.update_idem]
      · rw [List.filter_cons_of_pos (by simpa using same), assigned_cons, inductionHypothesis,
          assigned_cons, Function.update_comm same]

end ProviderMap

namespace Registry

/-- A lookup depends on what is assigned, and gives what it resolves to. -/
theorem lookup_eq_resolution? (hierarchy : Hierarchy) (providers : ProviderMap) :
    lookup hierarchy providers = providers.assigned.resolution? hierarchy := by
  funext type
  unfold lookup Assignment.resolution? Assignment.resolutionAmong? ProviderMap.firstAlong
  rw [Hierarchy.method_eq_find?]
  cases (hierarchy.said type).find? OwnMethod.isSaid with
  | none => rfl
  | some said => cases said <;> rfl

/-- A registry with the given assignment that remembers nothing but what it would look up. -/
structure Follows (hierarchy : Hierarchy) (registry : Registry) (assigned : Assignment) : Prop where
  assigned : registry.providers.assigned = assigned
  remembers : registry.answer? hierarchy = lookup hierarchy registry.providers

variable {hierarchy : Hierarchy}

/-- A registry that remembers nothing cannot remember anything wrong. -/
theorem follows_of_forgotten (hierarchy : Hierarchy) (providers : ProviderMap) :
    Follows hierarchy ⟨providers, []⟩ providers.assigned :=
  ⟨rfl, rfl⟩

theorem Follows.agrees {before after : Registry} {assigned : Assignment}
    (follows : Follows hierarchy before assigned) (agrees : Agrees hierarchy before after) :
    Follows hierarchy after assigned := by
  refine ⟨?_, ?_⟩
  · rw [agrees.providers, follows.assigned]
  · rw [agrees.answers, agrees.providers, follows.remembers]

theorem Follows.answer? {registry : Registry} {assigned : Assignment}
    (follows : Follows hierarchy registry assigned) :
    registry.answer? hierarchy = assigned.resolution? hierarchy := by
  rw [follows.remembers, lookup_eq_resolution?, follows.assigned]

theorem Follows.resolve_fst {registry : Registry} {assigned : Assignment}
    (follows : Follows hierarchy registry assigned) (type : ArgumentType) :
    (registry.resolve hierarchy type).1 =
      Resolution.orUnsupported type (assigned.resolution? hierarchy type) := by
  rw [Registry.resolve_fst, follows.answer?]
  rfl

end Registry

namespace Workspace

/-! ## Ledgers -/

/-- For every registry what is assigned in it, in the order in which the registries were made. -/
abbrev Ledger := List Assignment

namespace Ledger

/-- What is assigned in the registry of a number. -/
def assigned (ledger : Ledger) (number : Nat) : Assignment := (ledger[number]?).getD fun _ => none

/-- Enter an operation.  To resolve a type or to bind a value is not worth an entry. -/
def enter (ledger : Ledger) : Operation → Ledger
  | .create providers => ledger ++ [providers.assigned]
  | .copy number => ledger ++ [ledger.assigned number]
  | .register number type provider =>
    ledger.modify number fun assigned => Function.update assigned type (some provider)
  | .unregister number type => ledger.modify number fun assigned => Function.update assigned type none
  | .resolve _ _ => ledger
  | .bind _ _ => ledger

/-- The ledger of a history that begins without any registry. -/
def ofHistory (operations : List Operation) : Ledger := operations.foldl enter []

theorem assigned_append (ledger : Ledger) (assigned : Assignment) (number : Nat) :
    Ledger.assigned (ledger ++ [assigned]) number =
      if number = ledger.length then assigned else ledger.assigned number := by
  unfold Ledger.assigned
  split
  · next last => simp [last]
  · next notLast =>
      rcases Nat.lt_or_gt_of_ne notLast with inside | outside
      · rw [List.getElem?_append_left inside]
      · rw [List.getElem?_eq_none (by simp; omega), List.getElem?_eq_none (by omega)]

theorem assigned_modify (ledger : Ledger) (changed : Nat) (change : Assignment → Assignment)
    (number : Nat) :
    Ledger.assigned (ledger.modify changed change) number =
      if changed = number ∧ changed < ledger.length then change (ledger.assigned number)
      else ledger.assigned number := by
  unfold Ledger.assigned
  rw [List.getElem?_modify]
  by_cases same : changed = number
  · subst changed
    by_cases inside : number < ledger.length <;> simp [inside]
  · simp [same]

end Ledger

/-- Every registry has the assignment that the ledger says, and remembers nothing else. -/
structure IsRecordedBy (workspace : Workspace) (ledger : Ledger) : Prop where
  length : workspace.registries.length = ledger.length
  follows : ∀ number, (workspace.registry number).Follows workspace.hierarchy (ledger.assigned number)

namespace IsRecordedBy

variable {workspace after : Workspace} {ledger : Ledger}

theorem append (recorded : IsRecordedBy workspace ledger) {registry : Registry}
    {assigned : Assignment} (follows : registry.Follows workspace.hierarchy assigned)
    (hierarchy : after.hierarchy = workspace.hierarchy)
    (added : after.registries = workspace.registries ++ [registry]) :
    IsRecordedBy after (ledger ++ [assigned]) := by
  refine ⟨by simp [added, recorded.length], fun number => ?_⟩
  rw [registry_of_registries_append added, Ledger.assigned_append, hierarchy, recorded.length]
  split
  · exact follows
  · exact recorded.follows number

theorem set (recorded : IsRecordedBy workspace ledger) (change : Assignment → Assignment)
    {number : Nat} {registry : Registry}
    (follows : registry.Follows workspace.hierarchy (change (ledger.assigned number)))
    (hierarchy : after.hierarchy = workspace.hierarchy)
    (replaced : after.registries = workspace.registries.set number registry) :
    IsRecordedBy after (ledger.modify number change) := by
  refine ⟨by simp [replaced, recorded.length], fun other => ?_⟩
  rw [registry_of_registries_set replaced, Ledger.assigned_modify, hierarchy, recorded.length]
  split
  · next changed => exact changed.1 ▸ follows
  · exact recorded.follows other

/-- A registry that agrees with the one before has the same entry. -/
theorem of_agrees (recorded : IsRecordedBy workspace ledger) {number : Nat} {registry : Registry}
    (agrees : (workspace.registry number).Agrees workspace.hierarchy registry)
    (hierarchy : after.hierarchy = workspace.hierarchy)
    (replaced : after.registries = workspace.registries.set number registry) :
    IsRecordedBy after ledger := by
  have follows := (recorded.follows number).agrees agrees
  simpa using recorded.set id follows hierarchy replaced

theorem perform (recorded : IsRecordedBy workspace ledger) (operation : Operation) :
    IsRecordedBy (operation.perform workspace) (ledger.enter operation) := by
  have hierarchy : (operation.perform workspace).hierarchy = workspace.hierarchy := by
    rw [Operation.perform_eq]
  cases operation with
  | create providers =>
      exact recorded.append (Registry.follows_of_forgotten _ providers) hierarchy rfl
  | copy number =>
      have follows := Registry.follows_of_forgotten workspace.hierarchy
        (workspace.registry number).providers
      rw [(recorded.follows number).assigned] at follows
      exact recorded.append follows hierarchy rfl
  | register number type provider =>
      have follows := Registry.follows_of_forgotten workspace.hierarchy
        ((workspace.registry number).providers.assign type provider)
      rw [ProviderMap.assigned_assign, (recorded.follows number).assigned] at follows
      exact recorded.set _ follows hierarchy rfl
  | unregister number type =>
      have follows := Registry.follows_of_forgotten workspace.hierarchy
        ((workspace.registry number).providers.remove type)
      rw [ProviderMap.assigned_remove, (recorded.follows number).assigned] at follows
      exact recorded.set _ follows hierarchy rfl
  | resolve number type =>
      rcases (Operation.exists_agrees_registries number workspace).1 type with
        ⟨registry, agrees, replaced⟩
      exact recorded.of_agrees agrees hierarchy replaced
  | bind number value =>
      rcases (Operation.exists_agrees_registries number workspace).2 value with
        ⟨registry, agrees, replaced⟩
      exact recorded.of_agrees agrees hierarchy replaced

end IsRecordedBy

/-- A workspace without registries, in which nothing is being bound. -/
def cleared (workspace : Workspace) : Workspace := { workspace with registries := [], busy := [] }

/-- What a history leads to is recorded by the ledger of the history. -/
theorem IsRecordedBy.performAll {workspace : Workspace} {ledger : Ledger}
    (recorded : IsRecordedBy workspace ledger) (operations : List Operation) :
    IsRecordedBy (Operation.performAll operations workspace) (operations.foldl Ledger.enter ledger) := by
  induction operations generalizing workspace ledger with
  | nil => exact recorded
  | cons operation operations inductionHypothesis => exact inductionHypothesis (recorded.perform operation)

theorem isRecordedBy_ofHistory (workspace : Workspace) (operations : List Operation) :
    IsRecordedBy (Operation.performAll operations workspace.cleared) (Ledger.ofHistory operations) :=
  IsRecordedBy.performAll ⟨rfl, fun _ => ⟨rfl, rfl⟩⟩ operations

/-- What a history leads to resolves types as the ledger of the history says. -/
theorem answer?_performAll (workspace : Workspace) (operations : List Operation) (number : Nat) :
    let now := Operation.performAll operations workspace.cleared
    (now.registry number).answer? now.hierarchy =
      ((Ledger.ofHistory operations).assigned number).resolution? workspace.hierarchy := by
  intro now
  have hierarchy : now.hierarchy = workspace.hierarchy := Operation.hierarchy_performAll _ _
  rw [((isRecordedBy_ofHistory workspace operations).follows number).answer?, hierarchy]

end Workspace
end FieldText
