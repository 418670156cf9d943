import FieldText.Proofs.Bindings
import FieldText.Workspace

/-!
Histories of registries.  Registries are made, copied, changed and asked in any order, and a step that
ends in a fault leaves the changes that it made before.  Whatever the steps, they change nothing in a
workspace but registries and notices, and a step that concerns one registry leaves every other one as
it was.
-/

namespace FieldText

/-- A host on which every character takes one cell, with room for a hundred preparations inside each other. -/
def Host.plain : Host := ⟨.chars, 100, fun _ => []⟩

namespace Workspace

/-! ## Running a step -/

namespace Action

variable {α β : Type}

/-- What a step yields in a workspace. -/
def outcome (action : Action α) (workspace : Workspace) : Except Fault α := (action.run.run workspace).1

/-- The workspace that a step leaves, whether or not it failed. -/
def after (action : Action α) (workspace : Workspace) : Workspace := (action.run.run workspace).2

theorem outcome_bind (first : Action α) (next : α → Action β) (workspace : Workspace) :
    outcome (first >>= next) workspace =
      match outcome first workspace with
      | .ok value => outcome (next value) (after first workspace)
      | .error fault => .error fault := by
  simp only [outcome, after, ExceptT.run_bind, StateT.run_bind]
  cases ran : (ExceptT.run first).run workspace with
  | mk outcome workspace => cases outcome <;> rfl

theorem after_bind (first : Action α) (next : α → Action β) (workspace : Workspace) :
    after (first >>= next) workspace =
      match outcome first workspace with
      | .ok value => after (next value) (after first workspace)
      | .error _ => after first workspace := by
  simp only [outcome, after, ExceptT.run_bind, StateT.run_bind]
  cases ran : (ExceptT.run first).run workspace with
  | mk outcome workspace => cases outcome <;> rfl

@[simp]
theorem outcome_pure (value : α) (workspace : Workspace) :
    outcome (pure value) workspace = .ok value := rfl

@[simp]
theorem after_pure (value : α) (workspace : Workspace) : after (pure value) workspace = workspace := rfl

@[simp]
theorem outcome_throw (fault : Fault) (workspace : Workspace) :
    outcome (throw fault : Action α) workspace = .error fault := rfl

@[simp]
theorem after_throw (fault : Fault) (workspace : Workspace) :
    after (throw fault : Action α) workspace = workspace := rfl

@[simp]
theorem outcome_get (workspace : Workspace) : outcome get workspace = .ok workspace := rfl

@[simp]
theorem after_get (workspace : Workspace) : after get workspace = workspace := rfl

@[simp]
theorem outcome_set (later workspace : Workspace) : outcome (set later) workspace = .ok ⟨⟩ := rfl

@[simp]
theorem after_set (later workspace : Workspace) : after (set later) workspace = later := rfl

end Action

theorem outcome_runBinding {α : Type} (number : Nat)
    (step : World → BindingState → Except Fault α × BindingState) (workspace : Workspace) :
    Action.outcome (runBinding number step) workspace =
      (step workspace.world ⟨workspace.registry number, workspace.busy, []⟩).1 := rfl

theorem after_runBinding {α : Type} (number : Nat)
    (step : World → BindingState → Except Fault α × BindingState) (workspace : Workspace) :
    Action.after (runBinding number step) workspace =
      let state := (step workspace.world ⟨workspace.registry number, workspace.busy, []⟩).2
      { workspace with
        registries := workspace.registries.set number state.registry
        busy := state.busy
        notices := workspace.notices ++ state.notices } := rfl

/-! ## Registries by number -/

theorem registry_of_registries_append {workspace after : Workspace} {registry : Registry}
    (added : after.registries = workspace.registries ++ [registry]) (number : Nat) :
    after.registry number =
      if number = workspace.registries.length then registry else workspace.registry number := by
  unfold Workspace.registry
  rw [added]
  split
  · next last => simp [last]
  · next notLast =>
      rcases Nat.lt_or_gt_of_ne notLast with inside | outside
      · rw [List.getElem?_append_left inside]
      · rw [List.getElem?_eq_none (by simp; omega), List.getElem?_eq_none (by omega)]

theorem registry_of_registries_set {workspace after : Workspace} {registry : Registry} {changed : Nat}
    (replaced : after.registries = workspace.registries.set changed registry) (number : Nat) :
    after.registry number =
      if changed = number ∧ changed < workspace.registries.length then registry
      else workspace.registry number := by
  unfold Workspace.registry
  rw [replaced, List.getElem?_set]
  by_cases same : changed = number
  · subst changed
    by_cases inside : number < workspace.registries.length
    · simp [inside]
    · simp [inside]
  · simp [same]

/-! ## Operations -/

/-- An operation on registries, which are known by their numbers. -/
inductive Operation where
  /-- Make a registry with the given providers. -/
  | create (providers : ProviderMap)
  /-- Make a copy of a registry. -/
  | copy (number : Nat)
  /-- Assign a provider to a type.  A decorator does the same when it is applied. -/
  | register (number : Nat) (type : ArgumentType) (provider : Provider)
  | unregister (number : Nat) (type : ArgumentType)
  | resolve (number : Nat) (type : ArgumentType)
  | bind (number : Nat) (value : Value)

namespace Operation

/-- The workspace that an operation leaves, whether or not it failed. -/
def perform : Operation → Workspace → Workspace
  | create providers => Action.after (addRegistry ⟨providers, []⟩)
  | copy number => Action.after (addCopy number)
  | register number type provider => Action.after (Workspace.register number type provider)
  | unregister number type => Action.after (Workspace.unregister number type)
  | resolve number type => Action.after (Workspace.resolve number type)
  | bind number value => Action.after (Workspace.bind number value)

/-- The registry that an operation concerns.  A new registry gets the next number. -/
def target (workspace : Workspace) : Operation → Nat
  | create _ => workspace.registries.length
  | copy _ => workspace.registries.length
  | register number _ _ => number
  | unregister number _ => number
  | resolve number _ => number
  | bind number _ => number

/-- Operations one after the other. -/
def performAll (operations : List Operation) (workspace : Workspace) : Workspace :=
  operations.foldl (fun workspace operation => operation.perform workspace) workspace

theorem performAll_cons (operation : Operation) (operations : List Operation) (workspace : Workspace) :
    performAll (operation :: operations) workspace =
      performAll operations (operation.perform workspace) := rfl

/-- To resolve a type or to bind a value leaves a registry that agrees with the one before. -/
theorem exists_agrees_registries (number : Nat) (workspace : Workspace) :
    (∀ type, ∃ registry, (workspace.registry number).Agrees workspace.hierarchy registry ∧
      ((resolve number type).perform workspace).registries =
        workspace.registries.set number registry) ∧
    ∀ value, ∃ registry, (workspace.registry number).Agrees workspace.hierarchy registry ∧
      ((bind number value).perform workspace).registries = workspace.registries.set number registry := by
  constructor
  · intro type
    exact ⟨_, (workspace.registry number).agrees_resolve workspace.hierarchy type, rfl⟩
  · intro value
    have keeps := Binding.keeping_bind workspace.world value
      ⟨workspace.registry number, workspace.busy, []⟩
    exact ⟨_, keeps.registry, rfl⟩

/-- An operation changes registries and notices, and nothing else. -/
theorem perform_eq (operation : Operation) (workspace : Workspace) :
    operation.perform workspace =
      { workspace with
        registries := (operation.perform workspace).registries
        notices := (operation.perform workspace).notices } := by
  cases operation with
  | bind number value =>
      have keeps := Binding.keeping_bind workspace.world value
        ⟨workspace.registry number, workspace.busy, []⟩
      exact congrArg (fun busy => { (bind number value).perform workspace with busy := busy }) keeps.busy
  | _ => rfl

theorem performAll_eq (operations : List Operation) (workspace : Workspace) :
    performAll operations workspace =
      { workspace with
        registries := (performAll operations workspace).registries
        notices := (performAll operations workspace).notices } := by
  induction operations generalizing workspace with
  | nil => rfl
  | cons operation operations inductionHypothesis =>
      rw [performAll_cons, inductionHypothesis, perform_eq]

theorem host_performAll (operations : List Operation) (workspace : Workspace) :
    (performAll operations workspace).host = workspace.host := by rw [performAll_eq]

theorem busy_performAll (operations : List Operation) (workspace : Workspace) :
    (performAll operations workspace).busy = workspace.busy := by rw [performAll_eq]

theorem heap_performAll (operations : List Operation) (workspace : Workspace) :
    (performAll operations workspace).heap = workspace.heap := by rw [performAll_eq]

theorem hierarchy_performAll (operations : List Operation) (workspace : Workspace) :
    (performAll operations workspace).hierarchy = workspace.hierarchy := by rw [performAll_eq]

theorem world_performAll (operations : List Operation) (workspace : Workspace) :
    (performAll operations workspace).world = workspace.world := by
  rw [performAll_eq]
  rfl

end Operation

end Workspace
end FieldText
