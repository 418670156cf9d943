import FieldText.Proofs.DirectUses
import Mathlib

/-!
Sequence providers that have been used.  A sequence provider has one guard, which is shared by all registries
that it is assigned in and by their copies.  What one of them left on it would be met by all: a value that is
bound later would be taken for one that is inside itself.  But nothing is left there.  Binding takes off a
guard what it has put there and nothing else, also when an element cannot be bound, and also when it comes
back to a value that is being bound further out.

As long as all guards are empty, it makes no difference which sequence provider goes through a value.  So a
sequence provider with a past binds as a new one does, whatever was bound before, and whatever has become of
the containers since.
-/

namespace FieldText

/-! ## Other sequence providers in the place of given ones -/

/-- Put another sequence provider in the place of a sequence provider. -/
def Provider.renew (fresh : Nat → Nat) : Provider → Provider
  | sequence guard => sequence (fresh guard)
  | other => other

namespace ProviderMap

/-- Put other sequence providers in the place of those that are assigned. -/
def renew (fresh : Nat → Nat) (providers : ProviderMap) : ProviderMap :=
  providers.map fun entry => (entry.1, entry.2.renew fresh)

theorem lookup_renew (fresh : Nat → Nat) (providers : ProviderMap) (type : ArgumentType) :
    (providers.renew fresh).lookup type = (providers.lookup type).map (Provider.renew fresh) := by
  unfold renew
  induction providers with
  | nil => rfl
  | cons entry rest inductionHypothesis =>
      rw [List.map_cons, List.lookup_cons, List.lookup_cons, inductionHypothesis]
      cases type == entry.1 <;> rfl

theorem firstAlong_renew (fresh : Nat → Nat) (providers : ProviderMap) (order : List ArgumentType) :
    (providers.renew fresh).firstAlong order =
      (providers.firstAlong order).map (Provider.renew fresh) := by
  simp only [firstAlong, lookup_renew, List.map_findSome?]
  rfl

theorem length_guards_renew (fresh : Nat → Nat) (providers : ProviderMap) :
    (providers.renew fresh).guards.length = providers.guards.length := by
  unfold renew
  induction providers with
  | nil => rfl
  | cons entry rest inductionHypothesis =>
      rcases entry with ⟨type, provider⟩
      cases provider <;> simpa [guards, Provider.renew] using inductionHypothesis

end ProviderMap

/-- A type is looked up alike when the sequence providers are other ones. -/
theorem Registry.isAlike_lookup_renew (hierarchy : Hierarchy) (fresh : Nat → Nat) (providers : ProviderMap)
    (type : ArgumentType) :
    Resolution.IsAlike (lookup hierarchy (providers.renew fresh) type)
      (lookup hierarchy providers type) := by
  unfold lookup
  split
  · exact Or.inl rfl
  · exact Or.inl rfl
  · rw [ProviderMap.firstAlong_renew]
    cases providers.firstAlong (hierarchy.linearization type) with
    | none => exact Or.inl rfl
    | some provider =>
        cases provider with
        | sequence guard => exact Or.inr ⟨fresh guard, guard, rfl, rfl⟩
        | scalar kind => exact Or.inl rfl
        | custom provider => exact Or.inl rfl

/-- There is as much room as before. -/
theorem Binding.depthBound_renew (world : World) (fresh : Nat → Nat) (registry : Registry) :
    depthBound world ⟨registry.providers.renew fresh, []⟩ = depthBound world registry := by
  unfold depthBound
  rw [ProviderMap.length_guards_renew]

namespace Workspace

/-! ## Histories in which containers change -/

/-- What can happen between two uses of a sequence provider. -/
inductive Event where
  /-- An operation on registries, which may be to bind a value, and may fail. -/
  | performs (operation : Operation)
  /-- Containers are made or changed. -/
  | rearranges (heap : Heap)

namespace Event

/-- The workspace after an event. -/
def happen (workspace : Workspace) : Event → Workspace
  | performs operation => operation.perform workspace
  | rearranges heap => { workspace with heap := heap }

/-- Events one after the other. -/
def happenAll (history : List Event) (workspace : Workspace) : Workspace :=
  history.foldl happen workspace

end Event

/-- A workspace in which no guard holds anything, and no registry remembers anything but what it would look
up. -/
structure IsTidy (workspace : Workspace) : Prop where
  idle : workspace.busy = []
  recorded : ∃ ledger, IsRecordedBy workspace ledger

theorem isTidy_cleared (workspace : Workspace) : workspace.cleared.IsTidy :=
  ⟨rfl, [], rfl, fun _ => ⟨rfl, rfl⟩⟩

theorem IsTidy.happen {workspace : Workspace} (tidy : workspace.IsTidy) (event : Event) :
    (event.happen workspace).IsTidy := by
  rcases tidy with ⟨idle, ledger, recorded⟩
  cases event with
  | performs operation =>
      refine ⟨?_, ledger.enter operation, recorded.perform operation⟩
      rw [Event.happen, Operation.perform_eq]
      exact idle
  | rearranges heap => exact ⟨idle, ledger, recorded.length, recorded.follows⟩

theorem IsTidy.happenAll {workspace : Workspace} (tidy : workspace.IsTidy) (history : List Event) :
    (Event.happenAll history workspace).IsTidy := by
  induction history generalizing workspace with
  | nil => exact tidy
  | cons event history inductionHypothesis => exact inductionHypothesis (tidy.happen event)

/-! ## New sequence providers -/

/-- A workspace with the same containers and types, in which nothing has been bound yet.  Its one registry
is new and has the providers of a given one, except for the sequence providers, which are new too. -/
def afresh (fresh : Nat → Nat) (number : Nat) (workspace : Workspace) : Workspace :=
  { workspace.cleared with registries := [⟨(workspace.registry number).providers.renew fresh, []⟩] }

/-- A registry of a tidy workspace binds as a new one does with new sequence providers. -/
theorem IsTidy.outcome_bind_afresh {workspace : Workspace} (tidy : workspace.IsTidy) (fresh : Nat → Nat)
    (number : Nat) (value : Value) :
    Action.outcome (bind number value) workspace =
      Action.outcome (bind 0 value) (workspace.afresh fresh number) := by
  rcases tidy with ⟨idle, ledger, recorded⟩
  let renewed := Registry.lookup workspace.hierarchy ((workspace.registry number).providers.renew fresh)
  have sees : value.SeesAlike workspace.heap renewed
      ((workspace.registry number).answer? workspace.hierarchy) [] [] := by
    refine ⟨fun inner _ => ?_, fun _ _ _ _ _ _ => rfl⟩
    rw [(recorded.follows number).remembers]
    exact Registry.isAlike_lookup_renew workspace.hierarchy fresh _ _
  -- The new registry remembers nothing, so it answers what it looks up.
  have afresh : Action.outcome (bind 0 value) (workspace.afresh fresh number) =
      Binding.plainNested workspace.heap renewed (Binding.depthBound workspace.world
        ⟨(workspace.registry number).providers.renew fresh, []⟩) (workspace.host.nesting + 1) [] value :=
    outcome_bind_eq rfl 0 value
  rw [afresh, outcome_bind_eq idle, Binding.depthBound_renew]
  exact (Binding.bindsAlike_plainNested _ _ _ _ _ _ _ _ sees).symm

/-- Binding leaves no trace.  Every guard is as it was before, whatever is being bound meanwhile, at whatever
depth, and whether or not binding succeeds.  So in any history in which values are bound, or cannot be bound,
in registries and copies that share sequence providers, and in which containers change, a value is bound to
what a new registry with new sequence providers binds it to, or it fails with the same fault. -/
theorem bind_eq_bind_afresh (workspace : Workspace) (history : List Event) (number : Nat) (value : Value) :
    (∀ other : Workspace, (Action.after (bind number value) other).busy = other.busy) ∧
    (∀ world nesting room state,
      (Binding.bindWithin world (Binding.bindNested world nesting) room value state).2.busy = state.busy) ∧
    let now := Event.happenAll history workspace.cleared
    ∀ fresh : Nat → Nat,
      Action.outcome (bind number value) now = Action.outcome (bind 0 value) (now.afresh fresh number) := by
  refine ⟨fun other => ?_, fun world nesting room state => ?_, fun fresh => ?_⟩
  · rw [bind, after_runBinding]
    exact (Binding.keeping_bind other.world value _).busy
  · exact (Binding.keeping_bindWithin (Binding.keeping_bindNested world nesting) room value state).busy
  · exact ((isTidy_cleared workspace).happenAll history).outcome_bind_afresh fresh number value

/-- A list of a tuple and of itself, where the tuple holds the list and one more value. -/
def tupleInCycle (last : Value) : Heap :=
  ⟨[⟨.list, .list [.container 1, .container 0]⟩, ⟨.tuple, .tuple [.container 0, last]⟩]⟩

/-- The list cannot be bound as long as the last value has no provider.  After that value was replaced, the
tuple is bound in a copy of the registry, and the first occurrences of both are not taken for repetitions. -/
example :
    let failing : List Event := [.rearranges (tupleInCycle (.plain .absent)),
      .performs (.create (Registry.builtinProviders 0)), .performs (.copy 0)]
    let repaired := failing ++ [.performs (.bind 0 (.container 0)),
      .rearranges (tupleInCycle (.scalar .integer (.integer 7)))]
    let now := fun history => Event.happenAll history (initial .plain []).cleared
    Action.outcome (bind 0 (.container 0)) (now failing) = .error (.unsupportedType .absent) ∧
      (Action.outcome (bind 1 (.container 1)) (now repaired)).map
          (fun renderer => (renderer.render Heap.empty.occupancy []).text) =
        .ok "(...), [...], 7".toList := by
  constructor <;> cbv

end Workspace
end FieldText
