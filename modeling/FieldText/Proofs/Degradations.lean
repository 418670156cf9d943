import FieldText.Proofs.Compositions
import FieldText.Proofs.Limits
import FieldText.Proofs.Refusals
import FieldText.Proofs.Texts

/-!
Sessions of built-in values.  Scalars, and lists, tuples and ranges that are made of them, can always be
bound, and outside of strict mode every format string can be read; so a session of such values always
opens.  It does not always have a text: the options of a field can ask for more than can be done, and then
rendering ends in a fault.  Where it does not, the limits of every field are respected.
-/

namespace FieldText

/-! ## Built-in values -/

/-- A scalar, or a list, tuple or range of which every element is such a value.  There is an end to the
nesting. -/
inductive Value.IsBuiltin (heap : Heap) : Value → Prop
  | scalar (content : Scalar) : IsBuiltin heap (.scalar content.type content)
  | container {place : Nat} {container : Container} (found : heap.get? place = some container)
      (isSequence : container.type ∈ [ArgumentType.list, .tuple, .range])
      (each : ∀ element ∈ container.elements, IsBuiltin heap element) : IsBuiltin heap (.container place)

/-- The built-in types are resolved to the built-in providers. -/
structure ServesBuiltins (answer : ArgumentType → Option Resolution) : Prop where
  scalars : ∀ content : Scalar, answer content.type = some (.provider (.scalar content.kind))
  sequences : ∀ type ∈ [ArgumentType.list, .tuple, .range],
    ∃ guard, answer type = some (.provider (.sequence guard))

namespace Value

variable {heap : Heap} {answer : ArgumentType → Option Resolution} {value : Value}

/-- A built-in value is a scalar under its own rule, or its elements are built in and it is resolved to a
sequence provider. -/
theorem IsBuiltin.resolves (builtin : value.IsBuiltin heap) (serves : ServesBuiltins answer) :
    (∃ content : Scalar, value.subject = .scalar content ∧
      answer (heap.typeOf value) = some (.provider (.scalar content.kind))) ∨
    ∃ guard elements, answer (heap.typeOf value) = some (.provider (.sequence guard)) ∧
      heap.elements? value = some elements ∧ value.isEndless = false ∧
        ∀ element ∈ elements, element.IsBuiltin heap := by
  cases builtin with
  | scalar content => exact Or.inl ⟨content, rfl, serves.scalars content⟩
  | @container place container found isSequence each =>
      rcases serves.sequences _ isSequence with ⟨guard, resolved⟩
      refine Or.inr ⟨guard, container.elements, ?_, ?_, rfl, each⟩
      · simpa [Heap.typeOf, found] using resolved
      · simp [Heap.elements?, found]

theorem IsBuiltin.obstacle? {visit : Visit} (builtin : visit.value.IsBuiltin heap)
    (serves : ServesBuiltins answer) (asked : List Identity → Value → Except Fault Renderer) :
    visit.obstacle? heap answer asked = none := by
  rcases builtin.resolves serves with ⟨content, _, resolved⟩ | ⟨guard, elements, resolved, opened, ends, _⟩
  · simp [Visit.obstacle?, resolved]
  · simp [Visit.obstacle?, resolved, opened, ends]

theorem IsBuiltin.leadsTo (builtin : value.IsBuiltin heap) (serves : ServesBuiltins answer) {inner : Value}
    (leads : LeadsTo heap answer value inner) : inner.IsBuiltin heap := by
  rcases leads with ⟨guard, elements, found, opened, member⟩
  rcases builtin.resolves serves with ⟨content, _, resolved⟩ | ⟨_, others, _, openedHere, _, each⟩
  · cases resolved.symm.trans found
  · obtain rfl : others = elements := Option.some.inj (openedHere.symm.trans opened)
    exact each inner member

theorem IsBuiltin.reaches (builtin : value.IsBuiltin heap) (serves : ServesBuiltins answer) {inner : Value}
    (reaches : Reaches heap answer value inner) : inner.IsBuiltin heap := by
  induction reaches with
  | refl => exact builtin
  | tail _ leads inductionHypothesis => exact inductionHypothesis.leadsTo serves leads

/-- A built-in value is bound to a renderer of scalars and sequences. -/
theorem IsBuiltin.renderer (builtin : value.IsBuiltin heap) (serves : ServesBuiltins answer)
    {asked : List Identity → Value → Except Fault Renderer} {path : List Identity} {renderer : Renderer}
    (binds : Binding.Binds heap answer asked path value renderer) : renderer.IsBuiltin := by
  induction binds with
  | again found among => exact .placeholder _
  | rule found =>
      rcases builtin.resolves serves with ⟨content, subject, resolved⟩ | ⟨guard, _, resolved, _⟩
      · cases resolved.symm.trans found
        rw [subject]
        exact .scalar content
      · cases resolved.symm.trans found
  | @sequence path value guard elements renderers found opened notAmong length bound inductionHypothesis =>
      have related := List.forall₂_iff_zip.mpr ⟨length, fun member => inductionHypothesis _ _ member⟩
      refine .sequence (Binding.forall_mem_of_forall₂ related fun element member renderer bind => ?_)
      exact bind (builtin.leadsTo serves ⟨guard, elements, found, opened, member⟩)
  | carried found | method found | custom found =>
      rcases builtin.resolves serves with ⟨_, _, resolved⟩ | ⟨_, _, resolved, _⟩
      all_goals cases resolved.symm.trans found

end Value

namespace Workspace

variable {workspace : Workspace} {number : Option Nat} {values : List Value}

/-- A registry that remembers nothing but what it would look up, in which the built-in types have their
built-in providers, in a workspace where nothing is being bound. -/
structure IsBuiltin (workspace : Workspace) (number : Option Nat) : Prop where
  idle : workspace.busy = []
  sound : workspace.cache.IsSound
  remembers :
    let registry := workspace.registry (number.getD defaultRegistry)
    registry.answer? workspace.hierarchy = Registry.lookup workspace.hierarchy registry.providers
  serves : ServesBuiltins
    ((workspace.registry (number.getD defaultRegistry)).answer? workspace.hierarchy)

theorem isBuiltin_initial (host : Host) (environment : Environment) :
    (initial host environment).IsBuiltin none where
  idle := rfl
  sound := Format.Cache.isSound_empty
  remembers := rfl
  serves := by
    refine ⟨fun content => ?_, fun type member => ?_⟩
    · cases content <;> rfl
    · simp only [List.mem_cons, List.not_mem_nil, or_false] at member
      rcases member with rfl | rfl | rfl
      all_goals exact ⟨0, rfl⟩

theorem boundArguments_of_builtin (builtin : workspace.IsBuiltin number)
    (builtinValues : ∀ value ∈ values, value.IsBuiltin workspace.heap) :
    ∃ arguments, boundArguments workspace number values = .ok arguments ∧
      ∀ argument ∈ arguments, argument.IsBuiltin := by
  have follows : (workspace.registry (number.getD defaultRegistry)).Follows workspace.hierarchy _ :=
    ⟨rfl, builtin.remembers⟩
  have faults := faultOf_boundArguments follows values
  simp only [← follows.answer?] at faults
  cases bound : boundArguments workspace number values with
  | error fault =>
      rw [bound] at faults
      -- Binding fails at the first obstacle of the walk, but the walk meets built-in values only.
      rcases List.exists_of_findSome?_eq_some faults.symm with ⟨visit, met, obstacle⟩
      rcases Value.isMet_flatMap_walkArgument_iff.mp ⟨visit, met, rfl⟩ with ⟨argument, member, _, reaches⟩
      have reached := (builtinValues argument member).reaches builtin.serves reaches
      cases (reached.obstacle? builtin.serves _).symm.trans obstacle
  | ok arguments =>
      refine ⟨arguments, rfl, Binding.forall_mem_of_forall₂ (Binding.forall₂_of_mapM_eq_ok bound) ?_⟩
      intro value member argument made
      have builtinValue := builtinValues value member
      cases value with
      | wrapper renderer => cases builtinValue
      | _ => exact builtinValue.renderer builtin.serves (Binding.binds_of_plainWithin made)

/-- A session of built-in values opens as soon as its format string can be read. -/
theorem openSession_opens_of_read (builtin : workspace.IsBuiltin number)
    (builtinValues : ∀ value ∈ values, value.IsBuiltin workspace.heap) {given : Option Settings}
    {format : Text} {items : List Item}
    (read : (Format.parse (Mode.ofStrict (workspace.settingsFor given).strict) format).result = .ok items)
    {measure : Measure} (named : workspace.measure? (workspace.settingsFor given).measure = some measure) :
    ∃ opened, Action.outcome (openSession format values given number none) workspace = .ok opened ∧
      ∀ argument ∈ opened.session.arguments, argument.IsBuiltin := by
  rcases boundArguments_of_builtin builtin builtinValues with ⟨arguments, bound, builtinArguments⟩
  rcases (openSession_opens_iff builtin.idle builtin.sound arguments items measure).mpr
    ⟨bound, read, named⟩ with ⟨opened, opens, same, _⟩
  exact ⟨opened, opens, same ▸ builtinArguments⟩

/-- Built-in values can be bound, so a format string that cannot be read is what is reported. -/
theorem openSession_of_malformed (builtin : workspace.IsBuiltin number)
    (builtinValues : ∀ value ∈ values, value.IsBuiltin workspace.heap) {given : Option Settings}
    {format : Text} {malformation : Malformation}
    (malformed : (Format.parse (Mode.ofStrict (workspace.settingsFor given).strict) format).result =
      .error malformation) :
    Action.outcome (openSession format values given number none) workspace =
      .error (.malformedFormat malformation) := by
  rcases boundArguments_of_builtin builtin builtinValues with ⟨arguments, bound, _⟩
  rw [outcome_openSession builtin.idle, bound]
  rw [← builtin.sound.result_parse] at malformed
  simp only [outcome_openWith]
  cases read : (workspace.cache.parse (Mode.ofStrict (workspace.settingsFor given).strict)
      format).1.result with
  | error found =>
      rw [read] at malformed
      cases malformed
      rfl
  | ok items =>
      rw [read] at malformed
      cases malformed

/-- Outside of strict mode a session of built-in values always opens, whatever its format string. -/
theorem openSession_opens_of_builtin (builtin : workspace.IsBuiltin number)
    (builtinValues : ∀ value ∈ values, value.IsBuiltin workspace.heap) {given : Option Settings}
    (lenient : (workspace.settingsFor given).strict = false) {measure : Measure}
    (named : workspace.measure? (workspace.settingsFor given).measure = some measure) (format : Text) :
    ∃ opened, Action.outcome (openSession format values given number none) workspace = .ok opened ∧
      ∀ argument ∈ opened.session.arguments, argument.IsBuiltin := by
  rcases Format.readAll_recovering_covers format 0 (Piece.proper_of_mem_splitAll format) with
    ⟨items, _, read, _⟩
  rw [← Format.parse_eq_readAll] at read
  have mode : Mode.ofStrict (workspace.settingsFor given).strict = .recovering := by
    rw [lenient]
    rfl
  exact openSession_opens_of_read builtin builtinValues (mode ▸ read) named

end Workspace

namespace Session

/-- What the fields of a session ask for can be done. -/
def WithinLimits (occupancy : Occupancy) (session : Session) : Prop :=
  ∀ item ∈ session.parsed.items, item.WithinLimits occupancy session.measure session.arguments

/-- A session of built-in values runs to its end if and only if its fields stay within the limits. -/
theorem completesIff_render {session : Session}
    (builtin : ∀ argument ∈ session.arguments, argument.IsBuiltin) (occupancy : Occupancy) :
    (session.render occupancy).CompletesIff (session.WithinLimits occupancy) :=
  Rendering.completesIff_sequence fun item _ => item.completesIff_itemEffect occupancy _ builtin

end Session

namespace Workspace

/-- Outside of strict mode a session of built-in values always opens, however deep they are inside each
other.  There is always memory for the texts, and so it renders without a fault if and only if its fields stay
within the limits: every count among the options is short enough to be read, every integer in base ten short
enough to be written, and no number of fraction digits, of digits or of pads is larger than the largest that
is possible. -/
theorem openSession_renders_iff {workspace : Workspace} {number : Option Nat}
    (builtin : workspace.IsBuiltin number) {values : List Value}
    (builtinValues : ∀ value ∈ values, value.IsBuiltin workspace.heap) {given : Option Settings}
    (lenient : (workspace.settingsFor given).strict = false) {measure : Measure}
    (named : workspace.measure? (workspace.settingsFor given).measure = some measure) (format : Text) :
    ∃ opened, Action.outcome (openSession format values given number none) workspace = .ok opened ∧
      ∀ occupancy, (opened.session.render occupancy).fault = none ↔ opened.session.WithinLimits occupancy := by
  rcases openSession_opens_of_builtin builtin builtinValues lenient named format with
    ⟨opened, opens, builtinArguments⟩
  exact ⟨opened, opens, opened.session.completesIff_render builtinArguments⟩

/-- A field with options for the elements of a sequence, and for the elements of these. -/
def nestedOptions : Text := "\x7b0,-9:$[;]@[$<+>@(N4)]\x7d".toList

theorem openSession_renders_iff_nestedOptions :
    let values : List Value := [.container 1]
    listInTuple.IsBuiltin none ∧ (∀ value ∈ values, value.IsBuiltin listInTuple.heap) ∧
      ∃ opened, Action.outcome (openSession nestedOptions values none none none) listInTuple = .ok opened ∧
        opened.session.text? listInTuple.heap.occupancy = .ok "0,001+0,020;b".toList ∧
        opened.session.WithinLimits listInTuple.heap.occupancy := by
  intro values
  have builtin : listInTuple.IsBuiltin none := by
    refine ⟨rfl, ?_, rfl, (isBuiltin_initial .plain []).serves⟩
    exact Format.Cache.isSound_empty
  have list : Value.IsBuiltin listInTuple.heap (.container 0) := by
    refine .container rfl (by decide) fun element member => ?_
    rcases List.mem_pair.mp member with rfl | rfl
    · exact .scalar (.integer 1)
    · exact .scalar (.integer 20)
  have tuple : Value.IsBuiltin listInTuple.heap (.container 1) := by
    refine .container rfl (by decide) fun element member => ?_
    rcases List.mem_pair.mp member with rfl | rfl
    · exact list
    · exact .scalar (.text ['b'])
  have builtinValues : ∀ value ∈ values, value.IsBuiltin listInTuple.heap :=
    fun value member => List.mem_singleton.mp member ▸ tuple
  have named : listInTuple.measure? (listInTuple.settingsFor none).measure = some .chars := rfl
  rcases openSession_renders_iff builtin builtinValues rfl named nestedOptions with
    ⟨opened, opens, completes⟩
  let field : Field := ⟨0, ⟨.left, 9, ' '⟩, "$[;]@[$<+>@(N4)]".toList⟩
  let bound : Renderer :=
    .sequence [.sequence [.ruled .integer (.scalar (.integer 1)), .ruled .integer (.scalar (.integer 20))],
      .ruled .text (.scalar (.text ['b']))]
  have outcome : Action.outcome (openSession nestedOptions values none none none) listInTuple =
      .ok ⟨⟨nestedOptions, ⟨0, [.field nestedOptions field]⟩, .chars, [bound]⟩, none, 0⟩ := by cbv
  obtain rfl := Except.ok.inj (opens.symm.trans outcome)
  have writes : Session.text? listInTuple.heap.occupancy
      ⟨nestedOptions, ⟨0, [.field nestedOptions field]⟩, .chars, [bound]⟩ =
        .ok "0,001+0,020;b".toList := by cbv
  have succeeds := (Session.flatten_chunks writes).1
  exact ⟨builtin, builtinValues, _, outcome, writes, (completes _).mp succeeds⟩

/-! ## A count with too many digits -/

/-- A numeral with one digit more than can be converted. -/
def longNumeral : Text := List.replicate (Numeral.digitLimit + 1) '9'

/-- A field that asks for as many characters of its argument. -/
def longCount : Field := ⟨0, Layout.unpadded, longNumeral⟩

def longCountBody : Text := '0' :: ':' :: longNumeral

theorem mem_longNumeral {c : Char} (member : c ∈ longNumeral) : c = '9' := List.eq_of_mem_replicate member

theorem read_longNumeral : Count.read longNumeral = .tooLong := by
  have trimmed : Text.trim longNumeral = longNumeral := by
    apply Text.trim_eq_self
    intro c member
    rw [mem_longNumeral member]
    rfl
  have digits : longNumeral.all Char.isDigit = true := by
    rw [List.all_eq_true]
    intro c member
    rw [mem_longNumeral member]
    rfl
  have notEmpty : longNumeral.isEmpty = false := rfl
  have tooLong : ¬ longNumeral.length ≤ Numeral.digitLimit := by
    simp [longNumeral]
  simp [Count.read, trimmed, notEmpty, Numeral.isNumeral, digits, Numeral.read?, tooLong]

theorem result_parse_longCount (mode : Mode) :
    (Format.parse mode ('{' :: longCountBody ++ ['}'])).result =
      .ok [.field ('{' :: longCountBody ++ ['}']) longCount] := by
  have assembles : Body.Assembles ⟨['0'], none, longNumeral⟩ (['0'] ++ ':' :: longNumeral) :=
    .options (List.forall_mem_singleton.mpr rfl) longNumeral
  have spells : Body.Spells longCountBody longCount :=
    ⟨_, assembles, by decide, by decide, rfl, rfl⟩
  have free : BraceFree longCountBody := by
    simp only [longCountBody, braceFree_cons_iff]
    refine ⟨rfl, rfl, fun c member => ?_⟩
    rw [mem_longNumeral member]
    rfl
  exact Format.result_parse_field free spells mode

/-- A session with this field for a text does not render. -/
theorem fault_render_longCount {session : Session} {source content : Text}
    (items : session.parsed.items = [.field source longCount])
    (arguments : session.arguments = [.ruled .text (.scalar (.text content))]) (occupancy : Occupancy) :
    (session.render occupancy).fault = some .numeralTooLong := by
  have refused : (Renderer.itemEffect session.measure (Renderer.renderAll occupancy session.arguments)
      (.field source longCount)).fault = some .numeralTooLong := by
    have found : (Renderer.renderAll occupancy session.arguments)[longCount.index]? =
        some fun options => (Renderer.ruled .text (.scalar (.text content))).render occupancy options := by
      rw [arguments]
      rfl
    rw [Renderer.itemEffect, found]
    simp only [longCount, Layout.unpadded, Int.natCast_zero, Repetition.align, if_true, Renderer.render,
      ScalarKind.render, Subject.renderAsText, Scalar.renderText, Count.withCount, read_longNumeral]
    rfl
  change (Rendering.sequence (session.parsed.items.map _)).fault = _
  rw [items, List.map_singleton, Rendering.sequence, Rendering.andThen_fault, refused]
  rfl

/-- A session of built-in values does not always render, whatever its format string asks for: a count with
too many digits is not ignored as other counts are that cannot be read. -/
theorem not_openSession_renders :
    ¬ ∀ (format : Text) (values : List Value), (∀ value ∈ values, value.IsBuiltin (initial .plain []).heap) →
      ∃ opened, Action.outcome (openSession format values none none none) (initial .plain []) = .ok opened ∧
        ∀ occupancy, (opened.session.render occupancy).fault = none := by
  intro renders
  have builtinValues : ∀ value ∈ [Value.scalar .text (.text ['x'])],
      value.IsBuiltin (initial .plain []).heap := by
    intro value member
    rw [List.mem_singleton.mp member]
    exact .scalar (.text ['x'])
  rcases renders ('{' :: longCountBody ++ ['}']) _ builtinValues with ⟨opened, opens, completes⟩
  rcases of_openSession_eq_ok rfl Format.Cache.isSound_empty opens with ⟨bound, read, _⟩
  rw [result_parse_longCount] at read
  have fault := fault_render_longCount (Except.ok.inj read).symm (Except.ok.inj bound).symm Heap.empty.occupancy
  cases fault.symm.trans (completes Heap.empty.occupancy)

end Workspace
end FieldText
