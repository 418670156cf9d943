import FieldText.Proofs.Openings
import FieldText.Proofs.Readings
import FieldText.Proofs.Renderings

/-!
What a session is made of.  The memory of parsed format strings holds nothing but what parsing yields,
and so it makes no difference to the items of a session.  A session that parses its format string opens
if and only if its arguments can be bound, the format string can be read in the mode of the settings,
and the settings name a measure; it has these arguments, items and measure.  It has a text if and only
if none of its items fails, and then the text is made of the texts of its items.
-/

namespace FieldText

/-! ## The memory of parsed format strings -/

namespace Format
namespace Cache

/-- Every remembered result is what parsing yields. -/
def IsSound (cache : Cache) : Prop :=
  ∀ entry ∈ cache.entries, (Format.parse entry.1.1 entry.1.2).result = .ok entry.2.items

variable {cache : Cache} {mode : Mode} {format : Text} {parsed : ParsedItems}

theorem isSound_empty : empty.IsSound := nofun

theorem mem_of_find? {key : Key} (found : cache.find? key = some parsed) :
    (key, parsed) ∈ cache.entries := by
  rw [find?, List.lookup_eq_some_iff] at found
  rcases found with ⟨front, back, whole, _⟩
  rw [whole]
  exact List.mem_append_right front List.mem_cons_self

theorem IsSound.result_of_find? (sound : cache.IsSound)
    (found : cache.find? (mode, format) = some parsed) :
    (Format.parse mode format).result = .ok parsed.items :=
  sound _ (mem_of_find? found)

theorem IsSound.use (sound : cache.IsSound) (yields : (Format.parse mode format).result = .ok parsed.items)
    (nextSerial : Nat) : IsSound ⟨cache.use (mode, format) parsed, nextSerial⟩ := by
  intro entry member
  rcases List.mem_cons.mp (List.mem_of_mem_take member) with same | other
  · rw [same]
    exact yields
  · exact sound entry (List.mem_of_mem_filter other)

theorem IsSound.parse (sound : cache.IsSound) (mode : Mode) (format : Text) :
    (cache.parse mode format).2.IsSound := by
  unfold Cache.parse
  split
  · next parsed found => exact sound.use (sound.result_of_find? found) _
  · dsimp only
    split
    · exact sound
    · next parsed read =>
        rcases (Reading.result_map_eq_ok_iff _ _ _).mp read with ⟨items, yields, rfl⟩
        exact sound.use yields _

/-- Parsing with a sound memory yields what parsing yields. -/
theorem IsSound.result_parse (sound : cache.IsSound) (mode : Mode) (format : Text) :
    (cache.parse mode format).1.result.map ParsedItems.items = (Format.parse mode format).result := by
  unfold Cache.parse
  split
  · next parsed found => exact (sound.result_of_find? found).symm
  · have forgets : ((Format.parse mode format).map fun items =>
        ParsedItems.mk cache.nextSerial items).result.map ParsedItems.items =
          (Format.parse mode format).result := by
      rw [Reading.result_map]
      cases (Format.parse mode format).result <;> rfl
    dsimp only
    split
    · exact forgets
    · exact forgets

end Cache
end Format

/-! ## Opening a session that parses its format string -/

namespace Workspace

variable {workspace : Workspace} {format : Text} {values : List Value} {given : Option Settings}
  {number : Option Nat}

/-- The settings that a session is opened with. -/
def settingsFor (workspace : Workspace) (given : Option Settings) : Settings :=
  given.getD workspace.defaultSettings

theorem settingsOf_of_settings_append {later : Workspace} {settings : Settings}
    (added : later.settings = workspace.settings ++ [settings]) :
    later.settingsOf workspace.settings.length = settings := by
  rw [settingsOf, added]
  simp

theorem outcome_parse (mode : Mode) (format : Text) (workspace : Workspace) :
    Action.outcome (parse mode format) workspace =
      match (workspace.cache.parse mode format).1.result with
      | .error malformation => .error (.malformedFormat malformation)
      | .ok parsed => .ok parsed := by
  rcases read : workspace.cache.parse mode format with ⟨⟨notices, result⟩, cache⟩
  cases result <;> simp [parse, Action.outcome_bind, read, -bind_pure_comp]

theorem outcome_assemble (format : Text) (arguments : List Renderer) (registry : Option Nat)
    (settings : Nat) (parsed : ParsedItems) (workspace : Workspace) :
    Action.outcome (assemble format arguments registry settings parsed) workspace =
      match workspace.measure? (workspace.settingsOf settings).measure with
      | none => .error .unknownMeasure
      | some measure => .ok ⟨⟨format, parsed, measure, arguments⟩, registry, settings⟩ := by
  cases found : workspace.measure? (workspace.settingsOf settings).measure <;>
    simp [assemble, Action.outcome_bind, found]

/-- Once the arguments are bound, the format string is parsed, and then the measure is selected. -/
theorem outcome_openWith (arguments : List Renderer) :
    Action.outcome (openWith format arguments given number none) workspace =
      match (workspace.cache.parse (Mode.ofStrict (workspace.settingsFor given).strict) format).1.result with
      | .error malformation => .error (.malformedFormat malformation)
      | .ok parsed =>
        match workspace.measure? (workspace.settingsFor given).measure with
        | none => .error .unknownMeasure
        | some measure =>
          .ok ⟨⟨format, parsed, measure, arguments⟩, number, workspace.settings.length⟩ := by
  let later : Workspace :=
    { workspace with settings := workspace.settings ++ [workspace.settingsFor given] }
  have stepped : Action.outcome (openWith format arguments given number none) workspace =
      Action.outcome (parse (Mode.ofStrict (later.settingsOf workspace.settings.length).strict) format >>=
        assemble format arguments number workspace.settings.length) later := rfl
  have found : later.settingsOf workspace.settings.length = workspace.settingsFor given :=
    settingsOf_of_settings_append rfl
  rw [stepped, found, Action.outcome_bind, outcome_parse]
  cases (workspace.cache.parse (Mode.ofStrict (workspace.settingsFor given).strict) format).1.result with
  | error malformation => rfl
  | ok parsed =>
      have foundLater : Workspace.settingsOf
          (Action.after (parse (Mode.ofStrict (workspace.settingsFor given).strict) format) later)
            workspace.settings.length = workspace.settingsFor given :=
        settingsOf_of_settings_append (by rw [after_parse])
      have selects : Workspace.measure?
          (Action.after (parse (Mode.ofStrict (workspace.settingsFor given).strict) format) later) =
            workspace.measure? := by
        rw [after_parse]
        rfl
      simp only [outcome_assemble, foundLater, selects]

/-- What a session opens with depends on the workspace as it was before the arguments were bound. -/
theorem outcome_openSession (idle : workspace.busy = []) :
    Action.outcome (openSession format values given number none) workspace =
      match boundArguments workspace number values with
      | .error fault => .error fault
      | .ok arguments => Action.outcome (openWith format arguments given number none) workspace := by
  rw [openSession_eq, Action.outcome_bind, outcome_wrapAll idle]
  cases boundArguments workspace number values with
  | error fault => rfl
  | ok arguments =>
      -- Binding has changed registries and notices, on which nothing that follows depends.
      simp only [outcome_openWith]
      rw [wrapAll, after_runBinding]
      rfl

/-- A session opens if and only if its arguments can be bound, its format string can be read in the
mode of the settings, and the settings name a measure.  It has these arguments, items and measure. -/
theorem openSession_opens_iff (idle : workspace.busy = []) (sound : workspace.cache.IsSound)
    (arguments : List Renderer) (items : List Item) (measure : Measure) :
    (∃ opened, Action.outcome (openSession format values given number none) workspace = .ok opened ∧
        opened.session.arguments = arguments ∧ opened.session.parsed.items = items ∧
          opened.session.measure = measure) ↔
      boundArguments workspace number values = .ok arguments ∧
        (Format.parse (Mode.ofStrict (workspace.settingsFor given).strict) format).result = .ok items ∧
          workspace.measure? (workspace.settingsFor given).measure = some measure := by
  rw [outcome_openSession idle, ← sound.result_parse]
  cases boundArguments workspace number values with
  | error fault => simp
  | ok bound =>
      simp only [outcome_openWith]
      cases (workspace.cache.parse (Mode.ofStrict (workspace.settingsFor given).strict)
          format).1.result with
      | error malformation => simp [Except.map]
      | ok parsed =>
          cases workspace.measure? (workspace.settingsFor given).measure with
          | none => simp
          | some selected => simp [Except.map]

theorem of_openSession_eq_ok (idle : workspace.busy = []) (sound : workspace.cache.IsSound)
    {opened : OpenSession}
    (opens : Action.outcome (openSession format values given number none) workspace = .ok opened) :
    boundArguments workspace number values = .ok opened.session.arguments ∧
      (Format.parse (Mode.ofStrict (workspace.settingsFor given).strict) format).result =
        .ok opened.session.parsed.items ∧
      workspace.measure? (workspace.settingsFor given).measure = some opened.session.measure :=
  (openSession_opens_iff idle sound _ _ _).mp ⟨opened, opens, rfl, rfl, rfl⟩

/-- Opened sessions with the same items and measure render what their arguments make of the items. -/
theorem map_render_openSession (idle : workspace.busy = []) (sound : workspace.cache.IsSound)
    {items : List Item} {measure : Measure}
    (read : (Format.parse (Mode.ofStrict (workspace.settingsFor given).strict) format).result = .ok items)
    (selected : workspace.measure? (workspace.settingsFor given).measure = some measure) :
    (Action.outcome (openSession format values given number none) workspace).map
        (fun opened occupancy => opened.session.render occupancy) =
      (boundArguments workspace number values).map fun arguments occupancy =>
        (Renderer.session items measure arguments).render occupancy [] := by
  rw [outcome_openSession idle]
  cases boundArguments workspace number values with
  | error fault => rfl
  | ok arguments =>
      rw [← sound.result_parse] at read
      simp only [outcome_openWith]
      cases found : (workspace.cache.parse (Mode.ofStrict (workspace.settingsFor given).strict)
          format).1.result with
      | error malformation => rw [found] at read; cases read
      | ok parsed =>
          rw [found] at read
          obtain rfl : parsed.items = items := Except.ok.inj read
          simp only [selected]
          rfl

/-- A step that keeps a property of workspaces, whether or not it succeeds. -/
def Action.Preserves {α : Type} (property : Workspace → Prop) (action : Action α) : Prop :=
  ∀ workspace, property workspace → property (Action.after action workspace)

theorem Action.Preserves.bind {α β : Type} {property : Workspace → Prop} {first : Action α}
    {next : α → Action β} (preserves : Action.Preserves property first)
    (preservesNext : ∀ value, Action.Preserves property (next value)) :
    Action.Preserves property (first >>= next) := by
  intro workspace holds
  rw [Action.after_bind]
  split
  · exact preservesNext _ _ (preserves workspace holds)
  · exact preserves workspace holds

/-- A property that is kept by binding, by parsing and by adding settings is kept by opening a session. -/
theorem preserves_openSession {property : Workspace → Prop}
    (wraps : Action.Preserves property (wrapAll number values))
    (parses : ∀ mode, Action.Preserves property (parse mode format))
    (adds : ∀ settings, Action.Preserves property (addSettings settings)) (given : Option Settings)
    (items : Option ParsedItems) :
    Action.Preserves property (openSession format values given number items) := by
  have assembles : ∀ arguments settings parsed,
      Action.Preserves property (assemble format arguments number settings parsed) := by
    intro arguments settings parsed workspace holds
    rw [after_assemble]
    exact holds
  have reads : Action.Preserves property (get : Action Workspace) := fun _ holds => holds
  refine wraps.bind fun arguments => reads.bind fun _ => (adds _).bind fun settings => ?_
  cases items with
  | some parsed => exact assembles arguments settings parsed
  | none =>
      exact reads.bind fun _ => (parses _).bind fun parsed => assembles arguments settings parsed

/-- Opening a session leaves the memory sound, so that every session of a program finds it so. -/
theorem preserves_isSound_openSession (format : Text) (values : List Value) (given : Option Settings)
    (number : Option Nat) (items : Option ParsedItems) :
    Action.Preserves (fun workspace => workspace.cache.IsSound)
      (openSession format values given number items) := by
  apply preserves_openSession
  · intro workspace sound
    rw [wrapAll, after_runBinding]
    exact sound
  · intro mode workspace sound
    rw [after_parse]
    exact sound.parse mode format
  · exact fun settings workspace sound => sound

end Workspace

/-! ## The text of a session -/

namespace Rendering

theorem fault_sequence_eq_none_iff (renderings : List Rendering) :
    (sequence renderings).fault = none ↔ ∀ rendering ∈ renderings, rendering.fault = none := by
  rw [fault_sequence, List.findSome?_eq_none_iff]

end Rendering

namespace Session

/-- A session has a text if and only if none of its items fails, and then the text is that of its items
in order. -/
theorem text?_eq_ok_iff (occupancy : Occupancy) (session : Session) (text : Text) :
    session.text? occupancy = .ok text ↔
      (∀ item ∈ session.parsed.items,
        (Renderer.itemEffect session.measure (Renderer.renderAll occupancy session.arguments) item).fault =
          none) ∧
        session.parsed.items.flatMap
          (Item.text session.measure (Renderer.textAll occupancy session.arguments)) = text := by
  have writes : (session.render occupancy).Writes (session.parsed.items.flatMap
      (Item.text session.measure (Renderer.textAll occupancy session.arguments))) :=
    Renderer.writes_render occupancy session.renderer []
  have faults := Rendering.fault_sequence_eq_none_iff (session.parsed.items.map
    (Renderer.itemEffect session.measure (Renderer.renderAll occupancy session.arguments)))
  rw [List.forall_mem_map] at faults
  change (session.render occupancy).fault = none ↔ _ at faults
  rw [← faults, text?]
  cases fault : (session.render occupancy).fault with
  | some fault => simp
  | none => simp [writes fault]

theorem flatten_chunks {session : Session} {occupancy : Occupancy} {text : Text}
    (writes : session.text? occupancy = .ok text) :
    (session.render occupancy).fault = none ∧ (session.render occupancy).chunks.flatten = text := by
  unfold text? at writes
  dsimp only at writes
  split at writes
  · cases writes
  · next fault => exact ⟨fault, Except.ok.inj writes⟩

end Session
end FieldText
