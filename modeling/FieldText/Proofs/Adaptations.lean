import FieldText.Proofs.Compositions
import FieldText.Proofs.Rebindings
import FieldText.Proofs.RoundTrip
import FieldText.Proofs.WrittenLayouts
import FieldText.Proofs.Wrappings

/-!
Layouts and the adapter.  A field can ask for a layout, or its argument can bring one along in an adapter.
The two come about in different ways.  The layout of a field is read from the format string, where its pad
may be one of the characters that structure the field, and it applies to whatever the argument is bound to.
An adapter binds the value when it is made, and it is an argument that renders itself within a field without
a layout.  What is rendered is the same.
-/

namespace FieldText

/-! ## Words -/

theorem Alignment.ofName?_name (alignment : Alignment) : ofName? alignment.name = some alignment := by
  cases alignment <;> decide

theorem Measure.ofName?_name (cells : Measure) (kind : Kind) :
    ofName? cells kind.name = some (kind.measure cells) := by
  cases kind <;> rfl

/-! ## Types that are not declared -/

theorem Hierarchy.declarations_of_declare {hierarchy later : Hierarchy} {type : ArgumentType}
    {bases : List ArgumentType} {own : OwnMethod} {metatype : Metatype}
    (declares : hierarchy.declare type bases own metatype = .ok later) :
    ∃ declaration, later.declarations = (type, declaration) :: hierarchy.declarations := by
  unfold declare at declares
  generalize (if bases.isEmpty then [ArgumentType.object] else bases) = extended at declares
  dsimp only at declares
  split at declares
  · cases declares
  · split at declares
    · cases declares
    · cases declares
      exact ⟨_, rfl⟩

/-! ## Fields of the first argument -/

namespace Body

/-- A body with the layout that a pad, a mark and digits make, in front of options. -/
def laidOut (alignment : Alignment) (pad : Char) (digits options : Text) : Text :=
  '0' :: ',' :: pad :: alignment.mark :: (digits ++ ':' :: options)

/-- A body without a layout. -/
def plain (options : Text) : Text := '0' :: ':' :: options

variable {pad : Char} {digits options : Text}

/-- Whatever the pad is, and whatever stands in the options, the layout and the options are told apart. -/
theorem spells_laidOut (alignment : Alignment) (pad : Char) (width : Layout.Form.IsWidth digits)
    (options : Text) :
    Spells (laidOut alignment pad digits options) ⟨0, ⟨alignment, Layout.Form.columns digits, pad⟩, options⟩ := by
  have layoutPart : IsLayoutPart (pad :: alignment.mark :: digits) := by
    apply isLayoutPart_of_mark
    · rw [Alignment.ofMark?_mark]
      rfl
    · intro member
      rcases List.mem_cons.mp member with mark | digit
      · cases alignment <;> cases mark
      · cases width.digits _ digit
  have assembles : Assembles ⟨['0'], some (pad :: alignment.mark :: digits), options⟩
      (laidOut alignment pad digits options) :=
    .segment (List.forall_mem_singleton.mpr rfl) (.layoutOptions layoutPart nofun)
  have valid : (Layout.Form.marked (some pad) alignment digits []).IsValid := ⟨width, rfl⟩
  have read := Layout.read?_text valid
  simp only [Layout.Form.text, List.append_nil] at read
  exact ⟨_, assembles, rfl, rfl, read, rfl⟩

theorem spells_plain (options : Text) : Spells (plain options) ⟨0, Layout.unpadded, options⟩ := by
  have assembles : Assembles ⟨['0'], none, options⟩ (plain options) :=
    .options (List.forall_mem_singleton.mpr rfl) options
  exact ⟨_, assembles, rfl, rfl, rfl, rfl⟩

theorem braceFree_laidOut (alignment : Alignment) (padFree : isBrace pad = false)
    (width : Layout.Form.IsWidth digits) (free : BraceFree options) :
    BraceFree (laidOut alignment pad digits options) := by
  have digitsFree : BraceFree digits := fun c member => isBrace_of_isDigit (width.digits c member)
  have markFree : isBrace alignment.mark = false := by cases alignment <;> rfl
  simp only [laidOut, braceFree_cons_iff, braceFree_append_iff]
  exact ⟨rfl, rfl, padFree, markFree, digitsFree, rfl, free⟩

theorem braceFree_plain (free : BraceFree options) : BraceFree (plain options) := by
  simp only [plain, braceFree_cons_iff]
  exact ⟨rfl, rfl, free⟩

end Body

namespace Workspace

variable {workspace : Workspace} {number : Option Nat} {given : Option Settings} {value : Value}

/-- A single argument is bound as it is wrapped. -/
theorem boundArguments_singleton (idle : workspace.busy = []) (number : Option Nat) (value : Value) :
    boundArguments workspace number [value] =
      (Action.outcome (wrap number value) workspace).map fun renderer => [renderer] := by
  rw [outcome_wrap idle, boundArguments, List.mapM_cons, List.mapM_nil]
  cases Binding.plainArgument _ _ _ _ value <;> rfl

/-- A session of one field renders its argument with the layout and the options of the field. -/
theorem map_render_openSession_field (atRest : workspace.IsAtRest) {body : Text} {layout : Layout}
    {options : Text} (free : BraceFree body) (spells : Body.Spells body ⟨0, layout, options⟩)
    {measure : Measure} (selected : workspace.measure? (workspace.settingsFor given).measure = some measure)
    (number : Option Nat) (value : Value) :
    (Action.outcome (openSession ('{' :: body ++ ['}']) [value] given number none) workspace).map
        (fun opened occupancy => opened.session.render occupancy) =
      (Action.outcome (wrap number value) workspace).map fun renderer occupancy =>
        Repetition.align layout.alignment layout.width [layout.pad] measure
          (renderer.render occupancy options) := by
  rw [map_render_openSession atRest.idle atRest.sound (Format.result_parse_field free spells _) selected,
    boundArguments_singleton atRest.idle]
  cases Action.outcome (wrap number value) workspace with
  | error fault => rfl
  | ok renderer =>
      refine congrArg Except.ok ?_
      funext occupancy
      change Rendering.sequence [Renderer.itemEffect measure (Renderer.renderAll occupancy [renderer]) _] = _
      rw [Rendering.sequence, Rendering.sequence, Rendering.andThen_done]
      exact Renderer.itemEffect_field rfl _

/-! ## Adapters -/

/-- Wrapping takes nothing from the host away. -/
theorem measure?_after_wrap (number : Option Nat) (value : Value) (workspace : Workspace)
    (kind : Measure.Kind) :
    (Action.after (wrap number value) workspace).measure? kind.name =
      some (kind.measure workspace.host.cells) :=
  Measure.ofName?_name workspace.host.cells kind

theorem outcome_makeAligned (number : Option Nat) (value : Value) (alignment : Alignment) (amount : Int)
    (pad : Text) (kind : Measure.Kind) (workspace : Workspace) :
    Action.outcome (makeAligned number value alignment.name amount pad kind.name) workspace =
      (Action.outcome (wrap number value) workspace).map fun item =>
        .adapter (.aligned item alignment amount pad (kind.measure workspace.host.cells)) := by
  rw [makeAligned, Action.outcome_bind]
  cases Action.outcome (wrap number value) workspace with
  | error fault => rfl
  | ok item =>
      dsimp only
      rw [Alignment.ofName?_name]
      dsimp only
      rw [Action.outcome_bind, Action.outcome_get, Action.after_get]
      dsimp only
      rw [measure?_after_wrap]
      rfl

theorem after_makeAligned (number : Option Nat) (value : Value) (alignment : Alignment) (amount : Int)
    (pad : Text) (kind : Measure.Kind) (workspace : Workspace) :
    Action.after (makeAligned number value alignment.name amount pad kind.name) workspace =
      Action.after (wrap number value) workspace := by
  rw [makeAligned, Action.after_bind]
  cases Action.outcome (wrap number value) workspace with
  | error fault => rfl
  | ok item =>
      dsimp only
      rw [Alignment.ofName?_name]
      dsimp only
      rw [Action.after_bind, Action.outcome_get, Action.after_get]
      dsimp only
      rw [measure?_after_wrap]
      rfl

/-- Nothing that is assigned stands between an adapter and what it carries, unless the type of adapters was
itself declared. -/
theorem resolution?_adapter {hierarchy : Hierarchy} (undeclared : hierarchy.declaration? .adapter = none)
    (assigned : Assignment) : assigned.resolution? hierarchy .adapter = some .intrinsic := by
  have order : hierarchy.linearization .adapter = [.adapter, .object] := by
    simp only [Hierarchy.linearization, undeclared]
  have own : hierarchy.own .adapter = .carried := by simp only [Hierarchy.own, undeclared]
  have plain : hierarchy.metatype .adapter = .plain := by rw [Hierarchy.metatype, undeclared]; rfl
  have said : hierarchy.said .adapter = [.unset, .carried, hierarchy.own .object, .unset] := by
    rw [Hierarchy.said, Hierarchy.saidAlong, plain, order, List.map_cons, own]
    rfl
  rw [Assignment.resolution?, said]
  rfl

/-- A declared type has a name that no other type has, so that an adapter stays what it is. -/
theorem preserves_undeclared_declare {type : ArgumentType}
    (fixed : ∀ serial name, type ≠ .declared serial name) (name : Text) (bases : List ArgumentType)
    (own : ArgumentType → OwnMethod) (metatype : Metatype) :
    Action.Preserves (fun workspace => workspace.hierarchy.declaration? type = none)
      (declare name bases own metatype) := by
  intro workspace undeclared
  rw [declare, Action.after_bind, Action.outcome_get, Action.after_get]
  dsimp only
  split
  · exact undeclared
  · next later declares =>
      obtain ⟨declaration, added⟩ := Hierarchy.declarations_of_declare declares
      change List.lookup type later.declarations = none
      rw [added, List.lookup_cons, beq_eq_false_iff_ne.mpr (fixed _ _)]
      exact undeclared

theorem outcome_wrap_adapter (idle : workspace.busy = [])
    (carried : (workspace.registry (number.getD defaultRegistry)).answer? workspace.hierarchy .adapter =
      some .intrinsic) (renderer : Renderer) :
    Action.outcome (wrap number (.adapter renderer)) workspace = .ok renderer := by
  let registry := workspace.registry (number.getD defaultRegistry)
  rcases Binding.exists_plainWithin_eq workspace.heap (registry.answer? workspace.hierarchy)
    (Binding.plainNested workspace.heap (registry.answer? workspace.hierarchy)
      (Binding.depthBound workspace.world registry) workspace.host.nesting)
    (Binding.depthBound workspace.world registry) with ⟨plainElements, step⟩
  rw [outcome_wrap idle, Binding.plainArgument, Binding.plainNested, step, Binding.plainStep, Heap.typeOf,
    carried]
  · rfl
  · intro carried same
    cases same

/-- A session that has a value in an adapter, in a field without a layout, renders what the value is bound to
within the layout of the adapter. -/
theorem map_render_makeAligned (atRest : workspace.IsAtRest)
    (carried : (workspace.registry (number.getD defaultRegistry)).answer? workspace.hierarchy .adapter =
      some .intrinsic) {other : Measure}
    (selected : workspace.measure? (workspace.settingsFor given).measure = some other) {options : Text}
    (free : BraceFree options) (value : Value) (alignment : Alignment) (amount : Int) (pad : Text)
    (kind : Measure.Kind) :
    (Action.outcome (makeAligned number value alignment.name amount pad kind.name >>= fun adapter =>
        openSession ('{' :: Body.plain options ++ ['}']) [adapter] given number none) workspace).map
        (fun opened occupancy => opened.session.render occupancy) =
      (Action.outcome (wrap number value) workspace).map fun renderer occupancy =>
        Repetition.align alignment amount pad (kind.measure workspace.host.cells)
          (renderer.render occupancy options) := by
  rw [Action.outcome_bind, outcome_makeAligned, after_makeAligned]
  cases Action.outcome (wrap number value) workspace with
  | error fault => rfl
  | ok item =>
      have reopens := reopens_wrap number value workspace
      simp only [Except.map, reopens.outcome_openSession atRest.idle rfl]
      refine (map_render_openSession_field atRest (Body.braceFree_plain free) (Body.spells_plain options)
        selected number _).trans ?_
      rw [outcome_wrap_adapter atRest.idle carried]
      rfl

/-- A field with a layout and an adapter with the same layout are the same operation.  Whatever a value is,
and whatever was done with registries, either both sessions fail to open with the same fault, or both open
and render alike, at any time.  If the value can be bound, then they open, and they render what it is bound
to within the layout. -/
theorem openSession_layout_eq_makeAligned {workspace : Workspace} (sound : workspace.cache.IsSound)
    (undeclared : workspace.hierarchy.declaration? .adapter = none) {given : Option Settings} {other : Measure}
    (selected : workspace.measure? (workspace.settingsFor given).measure = some other) {digits : Text}
    (width : Layout.Form.IsWidth digits) {pad : Char} (padFree : isBrace pad = false) {options : Text}
    (free : BraceFree options) (history : List Operation) (number : Option Nat) (value : Value)
    (alignment : Alignment) (kind : Measure.Kind) (strict : Bool) :
    let now := Operation.performAll history workspace.cleared
    let columns := Layout.Form.columns digits
    let field := openSession ('{' :: Body.laidOut alignment pad digits options ++ ['}']) [value]
      (some ⟨strict, kind.name⟩) number none
    let adapted := makeAligned number value alignment.name columns [pad] kind.name >>= fun adapter =>
      openSession ('{' :: Body.plain options ++ ['}']) [adapter] given number none
    let render := fun (opened : OpenSession) occupancy => opened.session.render occupancy
    (Action.outcome field now).map render = (Action.outcome adapted now).map render ∧
      ∀ renderer, Action.outcome (wrap number value) now = .ok renderer →
        (Action.outcome field now).map render = .ok fun occupancy =>
          Repetition.align alignment columns [pad] (kind.measure workspace.host.cells)
            (renderer.render occupancy options) := by
  intro now columns field adapted render
  have cleared : workspace.cleared.IsAtRest := ⟨rfl, sound⟩
  have atRest : now.IsAtRest := cleared.performAll history
  have same : now = _ := Operation.performAll_eq history workspace.cleared
  have host : now.host = workspace.host := Operation.host_performAll history workspace.cleared
  have selectedNow : now.measure? (now.settingsFor given).measure = some other := by
    rw [same]
    exact selected
  have carried : (now.registry (number.getD defaultRegistry)).answer? now.hierarchy .adapter =
      some .intrinsic := by
    rw [show (now.registry _).answer? _ = _ from answer?_performAll workspace history _]
    exact resolution?_adapter undeclared _
  have selectedField : now.measure? (now.settingsFor (some ⟨strict, kind.name⟩)).measure =
      some (kind.measure workspace.host.cells) :=
    host ▸ Measure.ofName?_name now.host.cells kind
  have rendersField := map_render_openSession_field atRest
    (Body.braceFree_laidOut alignment padFree width free) (Body.spells_laidOut alignment pad width options)
    selectedField number value
  have rendersAdapter := map_render_makeAligned atRest carried selectedNow free value alignment columns [pad]
    kind
  rw [host] at rendersAdapter
  refine ⟨rendersField.trans rendersAdapter.symm, fun renderer bound => rendersField.trans ?_⟩
  rw [bound]
  rfl

/-- A list with an integer of a declared type and a text. -/
def declaredInList : Workspace :=
  let list : Container :=
    ⟨.list, .list [.scalar (.declared 0 ['T']) (.integer 7), .scalar .text (.text "abcde".toList)]⟩
  Action.after (declare ['T'] [.integer] (fun _ => .unset) .plain) { initial .plain [] with heap := ⟨[list]⟩ }

/-- Both the pad and the options look like the end of a layout. -/
theorem openSession_layout_eq_makeAligned_declaredInList :
    let now := Operation.performAll [.create (Registry.builtinProviders 0)] declaredInList.cleared
    let options := "$[:,]@[4]".toList
    let field := openSession ('{' :: Body.laidOut .center ':' ['0', '1', '3'] options ++ ['}']) [.container 0]
      (some ⟨true, Measure.Kind.cells.name⟩) none none
    let adapted := makeAligned none (.container 0) Alignment.center.name 13 [':'] Measure.Kind.cells.name >>=
      fun adapter => openSession ('{' :: Body.plain options ++ ['}']) [adapter] none none none
    let text := fun outcome : Except Fault OpenSession =>
      (outcome.map fun opened occupancy => opened.session.render occupancy).map fun render =>
        (render Heap.empty.occupancy).text
    Layout.Form.IsWidth ['0', '1', '3'] ∧ BraceFree options ∧
      (∃ renderer, Action.outcome (wrap none (.container 0)) now = .ok renderer) ∧
      text (Action.outcome field now) = .ok ":0007:,abcd::".toList ∧
      text (Action.outcome adapted now) = .ok ":0007:,abcd::".toList := by
  intro now options field adapted text
  have undeclared : declaredInList.hierarchy.declaration? .adapter = none :=
    preserves_undeclared_declare (fun _ _ => by simp) ['T'] [.integer] (fun _ => .unset) .plain _ rfl
  have width : Layout.Form.IsWidth ['0', '1', '3'] := ⟨by simp, by simp [Numeral.digitLimit], by simp⟩
  have free : BraceFree options := by
    have listed : options = ['$', '[', ':', ',', ']', '@', '[', '4', ']'] := rfl
    simp [listed, BraceFree, isBrace]
  have selected : declaredInList.measure? (declaredInList.settingsFor none).measure = some .chars := rfl
  have padFree : isBrace ':' = false := rfl
  obtain ⟨same, renders⟩ := openSession_layout_eq_makeAligned Format.Cache.isSound_empty undeclared selected
    width padFree free [.create (Registry.builtinProviders 0)] none (.container 0) .center .cells true
  have bound : Action.outcome (wrap none (.container 0)) now = .ok (.sequence
      [.ruled .integer (.scalar (.integer 7)), .ruled .text (.scalar (.text "abcde".toList))]) := rfl
  have written : text (Action.outcome field now) = .ok ":0007:,abcd::".toList := by
    refine (congrArg (Except.map fun render => (render Heap.empty.occupancy).text) (renders _ bound)).trans ?_
    simp only [options]
    cbv
  refine ⟨width, free, ⟨_, bound⟩, written, ?_⟩
  exact (congrArg (Except.map fun render => (render Heap.empty.occupancy).text) same).symm.trans written

end Workspace
end FieldText
