import FieldText.Proofs.Histories

/-!
Opening a session.  The arguments are bound first, each as if it were the only one, and what is done
afterwards can fail for other reasons only.  So a session opens with the renderers that its arguments
are bound to, and if it does not open for want of a provider, then because an argument has none.
-/

namespace FieldText

/-- A fault that is not the want of a provider. -/
def Fault.IsOther : Fault → Prop
  | unsupportedType _ => False
  | _ => True

namespace Workspace

variable {workspace : Workspace}

/-- What the values of a workspace are bound to in a registry, when nothing else is being bound. -/
def boundArguments (workspace : Workspace) (number : Option Nat) (values : List Value) :
    Except Fault (List Renderer) :=
  let registry := workspace.registry (number.getD defaultRegistry)
  values.mapM (Binding.plainArgument workspace.heap (registry.answer? workspace.hierarchy)
    (Binding.depthBound workspace.world registry) workspace.host.nesting)

/-- What becomes of a value that a preparation asks for, given the values on the way to the prepared one. -/
def boundWhenAsked (workspace : Workspace) (number : Option Nat) :
    List Identity → Value → Except Fault Renderer :=
  let registry := workspace.registry (number.getD defaultRegistry)
  Binding.plainNested workspace.heap (registry.answer? workspace.hierarchy)
    (Binding.depthBound workspace.world registry) workspace.host.nesting

theorem outcome_wrapAll (idle : workspace.busy = []) (number : Option Nat) (values : List Value) :
    Action.outcome (wrapAll number values) workspace = boundArguments workspace number values := by
  rw [wrapAll, outcome_runBinding]
  exact Binding.bindArguments_fst values idle

/-- What is left to do once the arguments are bound. -/
def openWith (format : Text) (arguments : List Renderer) (given : Option Settings)
    (registry : Option Nat) (items : Option ParsedItems) : Action OpenSession := do
  let settings ← addSettings (given.getD (← get).defaultSettings)
  let parsed ←
    match items with
    | some items => pure items
    | none => parse (Mode.ofStrict ((← get).settingsOf settings).strict) format
  assemble format arguments registry settings parsed

theorem openSession_eq (format : Text) (values : List Value) (given : Option Settings)
    (registry : Option Nat) (items : Option ParsedItems) :
    openSession format values given registry items =
      wrapAll registry values >>= fun arguments => openWith format arguments given registry items := rfl

/-! ## How a step can end -/

/-- Every value that a step yields is a success, and every fault that ends it is a failure. -/
def Action.Ends {α : Type} (success : α → Prop) (failure : Fault → Prop) (action : Action α) : Prop :=
  ∀ workspace,
    match Action.outcome action workspace with
    | .ok value => success value
    | .error fault => failure fault

theorem Action.Ends.bind {α β : Type} {passed : α → Prop} {success : β → Prop} {failure : Fault → Prop}
    {first : Action α} {next : α → Action β} (ends : Action.Ends passed failure first)
    (endsNext : ∀ value, passed value → Action.Ends success failure (next value)) :
    Action.Ends success failure (first >>= next) := by
  intro workspace
  have endsHere := ends workspace
  rw [Action.outcome_bind]
  cases ran : Action.outcome first workspace with
  | error fault => simpa only [ran] using endsHere
  | ok value => exact endsNext value (by simpa only [ran] using endsHere) _

theorem Action.ends_throw {α : Type} {success : α → Prop} {failure : Fault → Prop} {fault : Fault}
    (fails : failure fault) : Action.Ends success failure (throw fault : Action α) := fun _ => fails

theorem Action.ends_pure {α : Type} {success : α → Prop} {failure : Fault → Prop} {value : α}
    (succeeds : success value) : Action.Ends success failure (pure value : Action α) := fun _ => succeeds

/-- A step that only reads or only writes the workspace cannot fail. -/
theorem Action.ends_get {failure : Fault → Prop} :
    Action.Ends (fun _ => True) failure (get : Action Workspace) := fun _ => trivial

theorem Action.ends_set {failure : Fault → Prop} (workspace : Workspace) :
    Action.Ends (fun _ => True) failure (set workspace : Action PUnit) := fun _ => trivial

theorem ends_parse (mode : Mode) (format : Text) :
    Action.Ends (fun _ => True) Fault.IsOther (parse mode format) := by
  refine Action.ends_get.bind fun workspace _ => (Action.ends_set _).bind fun _ _ => ?_
  split
  · exact Action.ends_throw trivial
  · exact Action.ends_pure trivial

theorem ends_assemble (format : Text) (arguments : List Renderer) (registry : Option Nat)
    (settings : Nat) (parsed : ParsedItems) :
    Action.Ends (fun opened => opened.session.arguments = arguments) Fault.IsOther
      (assemble format arguments registry settings parsed) := by
  refine Action.ends_get.bind fun workspace _ => ?_
  split
  · exact Action.ends_throw trivial
  · exact Action.ends_pure rfl

theorem ends_addSettings (settings : Settings) :
    Action.Ends (fun _ => True) Fault.IsOther (addSettings settings) :=
  Action.ends_get.bind fun _ _ => (Action.ends_set _).bind fun _ _ => Action.ends_pure trivial

/-- Once the arguments are bound, a session has them for its own, or does not open for another reason
than the want of a provider. -/
theorem ends_openWith (format : Text) (arguments : List Renderer) (given : Option Settings)
    (registry : Option Nat) (items : Option ParsedItems) :
    Action.Ends (fun opened => opened.session.arguments = arguments) Fault.IsOther
      (openWith format arguments given registry items) := by
  refine Action.ends_get.bind fun workspace _ => (ends_addSettings _).bind fun settings _ => ?_
  cases items with
  | some items => exact ends_assemble format arguments registry settings items
  | none =>
      exact Action.ends_get.bind fun later _ => (ends_parse _ format).bind fun parsed _ =>
        ends_assemble format arguments registry settings parsed

/-! ## What opening a session leaves as it was -/

/-- A workspace after another one in which nothing has become of the host, of containers, types and
guards. -/
structure Keeps (before after : Workspace) : Prop where
  host : after.host = before.host
  heap : after.heap = before.heap
  hierarchy : after.hierarchy = before.hierarchy
  busy : after.busy = before.busy

theorem Keeps.trans {first second third : Workspace} (left : Keeps first second)
    (right : Keeps second third) : Keeps first third :=
  ⟨right.host.trans left.host, right.heap.trans left.heap, right.hierarchy.trans left.hierarchy,
    right.busy.trans left.busy⟩

theorem Action.keeps_bind {α β : Type} {first : Action α} {next : α → Action β}
    (keeps : ∀ workspace, Keeps workspace (Action.after first workspace))
    (keepsNext : ∀ value workspace, Keeps workspace (Action.after (next value) workspace))
    (workspace : Workspace) : Keeps workspace (Action.after (first >>= next) workspace) := by
  rw [Action.after_bind]
  split
  · exact (keeps workspace).trans (keepsNext _ _)
  · exact keeps workspace

theorem keeps_wrapAll (number : Option Nat) (values : List Value) (workspace : Workspace) :
    Keeps workspace (Action.after (wrapAll number values) workspace) := by
  rw [wrapAll, after_runBinding]
  have keeps := Binding.keeping_bindArguments workspace.world values
    ⟨workspace.registry (number.getD defaultRegistry), workspace.busy, []⟩
  exact ⟨rfl, rfl, rfl, keeps.busy⟩

/-- Parsing changes nothing but the memory and the notices, whether or not it succeeds. -/
theorem after_parse (mode : Mode) (format : Text) (workspace : Workspace) :
    Action.after (parse mode format) workspace =
      { workspace with
        cache := (workspace.cache.parse mode format).2
        notices := workspace.notices ++ (workspace.cache.parse mode format).1.notices } := by
  rcases read : workspace.cache.parse mode format with ⟨⟨notices, result⟩, cache⟩
  cases result <;> simp [parse, Action.after_bind, read, -bind_pure_comp]

theorem keeps_parse (mode : Mode) (format : Text) (workspace : Workspace) :
    Keeps workspace (Action.after (parse mode format) workspace) := by
  rw [after_parse]
  exact ⟨rfl, rfl, rfl, rfl⟩

theorem after_assemble (format : Text) (arguments : List Renderer) (registry : Option Nat)
    (settings : Nat) (parsed : ParsedItems) (workspace : Workspace) :
    Action.after (assemble format arguments registry settings parsed) workspace = workspace := by
  cases found : workspace.measure? (workspace.settingsOf settings).measure <;>
    simp [assemble, Action.after_bind, found]

theorem keeps_assemble (format : Text) (arguments : List Renderer) (registry : Option Nat)
    (settings : Nat) (parsed : ParsedItems) (workspace : Workspace) :
    Keeps workspace (Action.after (assemble format arguments registry settings parsed) workspace) := by
  rw [after_assemble]
  exact ⟨rfl, rfl, rfl, rfl⟩

theorem keeps_openWith (format : Text) (arguments : List Renderer) (given : Option Settings)
    (registry : Option Nat) (items : Option ParsedItems) (workspace : Workspace) :
    Keeps workspace (Action.after (openWith format arguments given registry items) workspace) := by
  refine Action.keeps_bind (fun _ => ⟨rfl, rfl, rfl, rfl⟩) (fun _ => ?_) workspace
  refine Action.keeps_bind (fun _ => ⟨rfl, rfl, rfl, rfl⟩) fun settings => ?_
  cases items with
  | some items => exact keeps_assemble format arguments registry settings items
  | none =>
      exact Action.keeps_bind (fun _ => ⟨rfl, rfl, rfl, rfl⟩) fun later =>
        Action.keeps_bind (keeps_parse _ format) fun parsed =>
          keeps_assemble format arguments registry settings parsed

/-- Opening a session leaves nothing on a guard and changes no container, whether or not it succeeds. -/
theorem keeps_openSession (format : Text) (values : List Value) (given : Option Settings)
    (number : Option Nat) (items : Option ParsedItems) (workspace : Workspace) :
    Keeps workspace (Action.after (openSession format values given number items) workspace) :=
  Action.keeps_bind (keeps_wrapAll number values)
    (fun arguments => keeps_openWith format arguments given number items) workspace

/-! ## Sessions that open, and sessions that want a provider -/

variable {format : Text} {values : List Value} {given : Option Settings} {number : Option Nat}
  {items : Option ParsedItems}

/-- A session that opens has the arguments that its values are bound to. -/
theorem boundArguments_of_openSession (idle : workspace.busy = []) {opened : OpenSession}
    (opens : Action.outcome (openSession format values given number items) workspace = .ok opened) :
    boundArguments workspace number values = .ok opened.session.arguments := by
  rw [openSession_eq, Action.outcome_bind, outcome_wrapAll idle] at opens
  cases bound : boundArguments workspace number values with
  | error fault => rw [bound] at opens; cases opens
  | ok arguments =>
      have ends := ends_openWith format arguments given number items
        (Action.after (wrapAll number values) workspace)
      simp only [bound] at opens
      simp only [opens] at ends
      rw [ends]

/-- A session wants a provider if and only if its arguments do, and it wants the same one.  Neither the
format string nor the settings have a part in it. -/
theorem openSession_eq_unsupportedType_iff (idle : workspace.busy = []) (type : ArgumentType) :
    Action.outcome (openSession format values given number items) workspace =
        .error (.unsupportedType type) ↔
      boundArguments workspace number values = .error (.unsupportedType type) := by
  rw [openSession_eq, Action.outcome_bind, outcome_wrapAll idle]
  cases bound : boundArguments workspace number values with
  | error fault => exact ⟨fun fails => by cases fails; rfl, fun fails => by cases fails; rfl⟩
  | ok arguments =>
      have ends := ends_openWith format arguments given number items
        (Action.after (wrapAll number values) workspace)
      constructor
      · intro fails
        simp only [fails] at ends
        exact ends.elim
      · intro fails
        cases fails

end Workspace
end FieldText
