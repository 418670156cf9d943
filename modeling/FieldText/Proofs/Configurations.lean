import FieldText.Proofs.Rejections
import FieldText.Proofs.Sections

/-!
Which configurations are accepted and what they say.  A document is accepted if and only if all of its
sections are known and are tables, and all of their keys are fields of the section with values that can be
coerced to the type of the field.  Each setting then has the coerced value if there is one, and the default if
there is none.  This settles the configuration, and since it speaks of what is in the document and not of
where, the order of sections and keys does not matter.

A whole document can be read section by section, or as a section of sections.  The order in which the values
are stored is different, and so are the names in the errors, but the outcome is the same.  This is because no
key occurs twice, so that no setting is stored twice.
-/

namespace FieldText
namespace Config

/-! ## Documents -/

/-- A reader makes this of a value, under any name. -/
def IsReadAs {α : Type} (read : Text → RawSetting → Except ConfigError α) (raw : RawSetting) (values : α) :
    Prop :=
  ∀ name, read name raw = .ok values

theorem IsReadAs.unique {α : Type} {read : Text → RawSetting → Except ConfigError α} {raw : RawSetting}
    {first second : α} (isRead : IsReadAs read raw first) (also : IsReadAs read raw second) :
    first = second :=
  Except.ok.inj ((isRead []).symm.trans (also []))

section Documents

variable {document : List (Text × RawSetting)} {config : Config}

theorem eq_of_mem_of_mem {entries : List (Text × RawSetting)} (nodup : (entries.map Prod.fst).Nodup)
    {key : Text} {raw again : RawSetting} (member : (key, raw) ∈ entries) (also : (key, again) ∈ entries) :
    raw = again :=
  (Prod.mk.inj (List.inj_on_of_nodup_map nodup member also rfl)).2

variable {α : Type} {read : Text → RawSetting → Except ConfigError α} {fields : List (Text × Kind)}
  {defaults : α}

theorem ReadsSection.isReadAs_iff (reads : ReadsSection read fields defaults) (name : Text)
    (raw : RawSetting) (values : α) : IsReadAs read raw values ↔ read name raw = .ok values :=
  ⟨fun isRead => isRead name, fun isRead _ => reads.congr _ _ _ _ isRead⟩

/-- A section of a document is the one with its name, or the defaults. -/
theorem ReadsSection.readPart_eq_ok_iff (reads : ReadsSection read fields defaults)
    (nodup : (document.map Prod.fst).Nodup) (name : String) (values : α) :
    readPart read name document = .ok values ↔
      IsSettled (fun raw => (name.toList, raw) ∈ document) (IsReadAs read) defaults values := by
  unfold readPart
  cases found : document.lookup name.toList with
  | none =>
      have missing : ∀ raw, (name.toList, raw) ∉ document := fun raw member =>
        not_mem_keys_of_lookup found (List.mem_map.mpr ⟨(name.toList, raw), member, rfl⟩)
      simp [IsSettled, missing, reads.empty, eq_comm]
  | some raw =>
      rcases List.lookup_eq_some_iff.mp found with ⟨front, back, whole, _⟩
      have member : (name.toList, raw) ∈ document := by simp [whole]
      rw [Option.getD_some, ← reads.isReadAs_iff]
      constructor
      · exact fun isRead => .inl ⟨raw, member, isRead⟩
      · rintro (⟨again, also, isRead⟩ | ⟨missing, _⟩)
        · rwa [eq_of_mem_of_mem nodup member also]
        · exact (missing raw member).elim

/-- All sections of a document are known, and the parts of a configuration are what they hold. -/
structure IsAssembled (document : List (Text × RawSetting)) (config : Config) : Prop where
  known : ∀ entry ∈ document, entry.1 ∈ sections.map Setting.key
  parsing : IsSettled (fun raw => ("parsing".toList, raw) ∈ document) (IsReadAs readParsing) default.parsing
    config.parsing
  render : IsSettled (fun raw => ("render".toList, raw) ∈ document) (IsReadAs readRender) default.render
    config.render
  command : IsSettled (fun raw => ("cli".toList, raw) ∈ document) (IsReadAs readCommand) default.command
    config.command

theorem unknownNames_isEmpty_iff (document : List (Text × RawSetting)) :
    (unknownNames document).isEmpty = true ↔ ∀ entry ∈ document, entry.1 ∈ sections.map Setting.key := by
  rw [List.isEmpty_iff, ← List.length_eq_zero_iff, unknownNames, List.length_mergeSort,
    List.length_eq_zero_iff]
  simp

theorem ofDocument_eq_ok_iff (nodup : (document.map Prod.fst).Nodup) :
    ofDocument document = .ok config ↔ IsAssembled document config := by
  have parsing := readsSection_readParsing.readPart_eq_ok_iff nodup "parsing"
  have render := readsSection_readRender.readPart_eq_ok_iff nodup "render"
  have command := readsSection_readCommand.readPart_eq_ok_iff nodup "cli"
  constructor
  · intro assembled
    unfold ofDocument at assembled
    simp only at assembled
    split at assembled
    · next known =>
        simp only [bind_eq_ok_iff] at assembled
        rcases assembled with ⟨_, readParsing, _, readRender, _, readCommand, same⟩
        cases same
        exact ⟨(unknownNames_isEmpty_iff _).mp known, (parsing _).mp readParsing,
          (render _).mp readRender, (command _).mp readCommand⟩
    · cases assembled
  · rintro ⟨known, isParsing, isRender, isCommand⟩
    simp only [ofDocument, (unknownNames_isEmpty_iff _).mpr known, if_true, (parsing _).mpr isParsing,
      (render _).mpr isRender, (command _).mpr isCommand]
    rfl

/-- A section as a setting of the whole configuration. -/
def sectionSetting {α : Type} (key : String) (read : Text → RawSetting → Except ConfigError α)
    (put : α → Config → Config) : Setting Config where
  key := key.toList
  store := fun name raw config => (read name raw).map fun values => put values config

def putParsing (values : ParsingSection) (config : Config) : Config := { config with parsing := values }

def putRender (values : RenderSection) (config : Config) : Config := { config with render := values }

def putCommand (values : CommandSection) (config : Config) : Config := { config with command := values }

def parsingSection : Setting Config := sectionSetting "parsing" readParsing putParsing

def renderSection : Setting Config := sectionSetting "render" readRender putRender

def commandSection : Setting Config := sectionSetting "cli" readCommand putCommand

theorem forall_mem_sections {property : Setting Config → Prop} :
    (∀ setting ∈ sections, property setting) ↔
      property parsingSection ∧ property renderSection ∧ property commandSection := by
  have same : sections = [parsingSection, renderSection, commandSection] := rfl
  simp [same]

theorem ReadsSection.coerces (reads : ReadsSection read fields defaults) (key : String)
    (put : α → Config → Config) : (sectionSetting key read put).Coerces (IsReadAs read) put := by
  intro name raw config result
  simp only [sectionSetting, map_eq_ok_iff, reads.isReadAs_iff name]

theorem coerces_parsingSection : parsingSection.Coerces (IsReadAs readParsing) putParsing :=
  readsSection_readParsing.coerces _ _

theorem coerces_renderSection : renderSection.Coerces (IsReadAs readRender) putRender :=
  readsSection_readRender.coerces _ _

theorem coerces_commandSection : commandSection.Coerces (IsReadAs readCommand) putCommand :=
  readsSection_readCommand.coerces _ _

theorem keeps_parsing : Keeps sections "parsing".toList (IsReadAs readParsing) Config.parsing :=
  forall_mem_sections.mpr ⟨.inl ⟨rfl, coerces_parsingSection.stores fun _ _ => rfl⟩,
    .inr ⟨by decide, coerces_renderSection.leaves fun _ _ => rfl⟩,
    .inr ⟨by decide, coerces_commandSection.leaves fun _ _ => rfl⟩⟩

theorem keeps_render : Keeps sections "render".toList (IsReadAs readRender) Config.render :=
  forall_mem_sections.mpr ⟨.inr ⟨by decide, coerces_parsingSection.leaves fun _ _ => rfl⟩,
    .inl ⟨rfl, coerces_renderSection.stores fun _ _ => rfl⟩,
    .inr ⟨by decide, coerces_commandSection.leaves fun _ _ => rfl⟩⟩

theorem keeps_command : Keeps sections "cli".toList (IsReadAs readCommand) Config.command :=
  forall_mem_sections.mpr ⟨.inr ⟨by decide, coerces_parsingSection.leaves fun _ _ => rfl⟩,
    .inr ⟨by decide, coerces_renderSection.leaves fun _ _ => rfl⟩,
    .inl ⟨rfl, coerces_commandSection.stores fun _ _ => rfl⟩⟩

theorem IsAssembled.unique (nodup : (document.map Prod.fst).Nodup) {first second : Config}
    (assembled : IsAssembled document first) (also : IsAssembled document second) : first = second := by
  have parsing := assembled.parsing.unique (fun _ _ => eq_of_mem_of_mem nodup)
    (fun _ _ _ isRead also => isRead.unique also) also.parsing
  have render := assembled.render.unique (fun _ _ => eq_of_mem_of_mem nodup)
    (fun _ _ _ isRead also => isRead.unique also) also.render
  have command := assembled.command.unique (fun _ _ => eq_of_mem_of_mem nodup)
    (fun _ _ _ isRead also => isRead.unique also) also.command
  cases first
  cases second
  simp_all only

/-- A section that is in a document is read, if the part it settles is. -/
theorem IsSettled.isReadAs {key : Text} {values : α}
    (settled : IsSettled (fun raw => (key, raw) ∈ document) (IsReadAs read) defaults values)
    (nodup : (document.map Prod.fst).Nodup) {raw : RawSetting} (member : (key, raw) ∈ document) :
    IsReadAs read raw values := by
  rcases settled with ⟨again, also, isRead⟩ | ⟨missing, _⟩
  · rwa [eq_of_mem_of_mem nodup member also]
  · exact (missing raw member).elim

/-- Reading a document as one section comes to the same as reading it section by section. -/
theorem readWhole_eq_ok_iff (nodup : (document.map Prod.fst).Nodup) (name : Text) :
    readWhole name (.table document) = .ok config ↔ IsAssembled document config := by
  have uniform : ∀ setting ∈ sections, setting.IsUniform :=
    forall_mem_sections.mpr ⟨coerces_parsingSection.isUniform, coerces_renderSection.isUniform,
      coerces_commandSection.isUniform⟩
  have assembled {config : Config} (isRead : readWhole name (.table document) = .ok config) :
      IsAssembled document config := by
    refine ⟨fun entry member => ?_, keeps_parsing.isSettled nodup isRead, keeps_render.isSettled nodup isRead,
      keeps_command.isSettled nodup isRead⟩
    rcases (exists_foldlM_iff uniform name document default).mp ⟨_, isRead⟩ entry member with
      ⟨setting, found, _⟩
    have named : setting.key = entry.1 := by simpa using List.find?_some found
    exact List.mem_map.mpr ⟨setting, List.mem_of_find?_eq_some found, named⟩
  refine ⟨assembled, fun isAssembled => ?_⟩
  have reads : ∃ result, document.foldlM (storeEntry sections name) default = .ok result := by
    rw [exists_foldlM_iff uniform]
    rintro ⟨key, raw⟩ member
    have known := isAssembled.known _ member
    simp only [sections, List.map_cons, List.map_nil, List.mem_cons, List.not_mem_nil, or_false] at known
    rcases known with rfl | rfl | rfl
    · exact ⟨parsingSection, rfl, (coerces_parsingSection.accepts_iff default _).mpr
        ⟨_, isAssembled.parsing.isReadAs nodup member⟩⟩
    · exact ⟨renderSection, rfl, (coerces_renderSection.accepts_iff default _).mpr
        ⟨_, isAssembled.render.isReadAs nodup member⟩⟩
    · exact ⟨commandSection, rfl, (coerces_commandSection.accepts_iff default _).mpr
        ⟨_, isAssembled.command.isReadAs nodup member⟩⟩
  rcases reads with ⟨result, isRead⟩
  rw [isAssembled.unique nodup (assembled isRead)]
  exact isRead

/-! ## Settings of a document -/

/-- No key occurs twice in a document or in one of its sections. -/
structure IsDistinct (document : List (Text × RawSetting)) : Prop where
  nodup : (document.map Prod.fst).Nodup
  inside : ∀ name entries, (name, .table entries) ∈ document → (entries.map Prod.fst).Nodup

/-- A section of a document has a value for a key. -/
def IsGiven (document : List (Text × RawSetting)) (name key : Text) (raw : RawSetting) : Prop :=
  ∃ entries, (name, .table entries) ∈ document ∧ (key, raw) ∈ entries

theorem IsDistinct.eq_of_isGiven (distinct : IsDistinct document) {name key : Text} {raw again : RawSetting}
    (given : IsGiven document name key raw) (also : IsGiven document name key again) : raw = again := by
  rcases given with ⟨entries, member, inside⟩
  rcases also with ⟨others, memberAgain, insideAgain⟩
  cases eq_of_mem_of_mem distinct.nodup member memberAgain
  exact eq_of_mem_of_mem (distinct.inside name entries member) inside insideAgain

/-- Every section of a document is known and is a table of its fields, with values that they take. -/
def IsValid (document : List (Text × RawSetting)) : Prop :=
  ∀ entry ∈ document, ∃ fields, (entry.1, fields) ∈ sectionFields ∧ IsSection fields entry.2

/-- Every setting is what the value that is given for it stands for, or the default. -/
structure Sets (document : List (Text × RawSetting)) (config : Config) : Prop where
  strict : IsSettled (IsGiven document "parsing".toList "strict".toList) RawSetting.StandsForBoolean
    default.parsing.strict config.parsing.strict
  measure : IsSettled (IsGiven document "render".toList "measure".toList) RawSetting.StandsForMeasure
    default.render.measure config.render.measure
  coerceArguments : IsSettled (IsGiven document "cli".toList "coerce_arguments".toList)
    RawSetting.StandsForBoolean default.command.coerceArguments config.command.coerceArguments
  noColor : IsSettled (IsGiven document "cli".toList "no_color".toList) RawSetting.StandsForBoolean
    default.command.noColor config.command.noColor

theorem Sets.unique (distinct : IsDistinct document) {first second : Config} (sets : Sets document first)
    (also : Sets document second) : first = second := by
  have strict := sets.strict.unique (fun _ _ => distinct.eq_of_isGiven) (fun _ _ _ stands => stands.unique)
    also.strict
  have measure := sets.measure.unique (fun _ _ => distinct.eq_of_isGiven) (fun _ _ _ stands => stands.unique)
    also.measure
  have coerceArguments := sets.coerceArguments.unique (fun _ _ => distinct.eq_of_isGiven)
    (fun _ _ _ stands => stands.unique) also.coerceArguments
  have noColor := sets.noColor.unique (fun _ _ => distinct.eq_of_isGiven) (fun _ _ _ stands => stands.unique)
    also.noColor
  rcases first with ⟨⟨_⟩, ⟨_⟩, ⟨_, _⟩⟩
  rcases second with ⟨⟨_⟩, ⟨_⟩, ⟨_, _⟩⟩
  simp_all only

/-- What is in a place of a section is settled by what the document gives for the key. -/
theorem IsSettled.inside {β : Type} {settings : List (Setting α)} {name key : Text} {values : α}
    {standsFor : RawSetting → β → Prop} {get : α → β} (distinct : IsDistinct document)
    (keeps : Keeps settings key standsFor get)
    (settled : IsSettled (fun raw => (name, raw) ∈ document) (IsReadAs (readSection settings defaults)) defaults
      values) :
    IsSettled (IsGiven document name key) standsFor (get defaults) (get values) := by
  rcases settled with ⟨raw, member, isRead⟩ | ⟨missing, rfl⟩
  · have read := isRead name
    cases raw with
    | table entries =>
        have given : ∀ raw, IsGiven document name key raw ↔ (key, raw) ∈ entries := by
          refine fun raw => ⟨?_, fun inside => ⟨entries, member, inside⟩⟩
          rintro ⟨others, memberAgain, inside⟩
          cases eq_of_mem_of_mem distinct.nodup member memberAgain
          exact inside
        simpa only [IsSettled, given] using keeps.isSettled (distinct.inside name entries member) read
    | boolean | integer | text | measure | other => cases read
  · refine .inr ⟨?_, rfl⟩
    rintro raw ⟨entries, member, _⟩
    exact missing _ member

theorem IsAssembled.sets (distinct : IsDistinct document) (assembled : IsAssembled document config) :
    Sets document config where
  strict := assembled.parsing.inside distinct keeps_strict
  measure := assembled.render.inside distinct keeps_measure
  coerceArguments := assembled.command.inside distinct keeps_coerceArguments
  noColor := assembled.command.inside distinct keeps_noColor

theorem IsAssembled.isValid (distinct : IsDistinct document) (assembled : IsAssembled document config) :
    IsValid document := by
  rintro ⟨name, raw⟩ member
  have known := assembled.known _ member
  simp only [sections, List.map_cons, List.map_nil, List.mem_cons, List.not_mem_nil, or_false] at known
  rcases known with rfl | rfl | rfl
  · exact ⟨_, List.mem_cons_self, (readsSection_readParsing.exists_iff [] raw).mp
      ⟨_, assembled.parsing.isReadAs distinct.nodup member []⟩⟩
  · exact ⟨_, List.mem_cons_of_mem _ List.mem_cons_self, (readsSection_readRender.exists_iff [] raw).mp
      ⟨_, assembled.render.isReadAs distinct.nodup member []⟩⟩
  · exact ⟨_, List.mem_cons_of_mem _ (List.mem_cons_of_mem _ List.mem_cons_self),
      (readsSection_readCommand.exists_iff [] raw).mp
        ⟨_, assembled.command.isReadAs distinct.nodup member []⟩⟩

/-- A part is settled if the section for it, when it is there, can be read. -/
theorem ReadsSection.exists_isSettled (reads : ReadsSection read fields defaults) {name : Text}
    (valid : ∀ raw, (name, raw) ∈ document → IsSection fields raw) :
    ∃ values, IsSettled (fun raw => (name, raw) ∈ document) (IsReadAs read) defaults values := by
  by_cases present : ∃ raw, (name, raw) ∈ document
  · rcases present with ⟨raw, member⟩
    rcases (reads.exists_iff name raw).mpr (valid raw member) with ⟨values, isRead⟩
    exact ⟨values, .inl ⟨raw, member, (reads.isReadAs_iff name raw values).mpr isRead⟩⟩
  · exact ⟨defaults, .inr ⟨not_exists.mp present, rfl⟩⟩

theorem IsValid.isSection (valid : IsValid document) {name : Text} {raw : RawSetting}
    (known : (name, fields) ∈ sectionFields) (member : (name, raw) ∈ document) : IsSection fields raw := by
  have nodup : (sectionFields.map Prod.fst).Nodup := by decide
  rcases valid _ member with ⟨others, alsoKnown, isSection⟩
  cases (Prod.mk.inj (List.inj_on_of_nodup_map nodup known alsoKnown rfl)).2
  exact isSection

theorem exists_isAssembled (valid : IsValid document) : ∃ config, IsAssembled document config := by
  have parsingKnown : ("parsing".toList, _) ∈ sectionFields := List.mem_cons_self
  have renderKnown : ("render".toList, _) ∈ sectionFields := List.mem_cons_of_mem _ List.mem_cons_self
  have commandKnown : ("cli".toList, _) ∈ sectionFields :=
    List.mem_cons_of_mem _ (List.mem_cons_of_mem _ List.mem_cons_self)
  rcases readsSection_readParsing.exists_isSettled fun _ member => valid.isSection parsingKnown member with
    ⟨parsing, parsingSettled⟩
  rcases readsSection_readRender.exists_isSettled fun _ member => valid.isSection renderKnown member with
    ⟨render, renderSettled⟩
  rcases readsSection_readCommand.exists_isSettled fun _ member => valid.isSection commandKnown member with
    ⟨command, commandSettled⟩
  refine ⟨⟨parsing, render, command⟩, fun entry member => ?_, parsingSettled, renderSettled, commandSettled⟩
  have names : sections.map Setting.key = sectionFields.map Prod.fst := rfl
  rcases valid entry member with ⟨_, known, _⟩
  rw [names]
  exact List.mem_map.mpr ⟨_, known, rfl⟩

/-- A document is read section by section if and only if it is valid, and then to what it sets. -/
theorem isAssembled_iff (distinct : IsDistinct document) (config : Config) :
    IsAssembled document config ↔ IsValid document ∧ Sets document config := by
  constructor
  · exact fun assembled => ⟨assembled.isValid distinct, assembled.sets distinct⟩
  · rintro ⟨valid, sets⟩
    rcases exists_isAssembled valid with ⟨other, assembled⟩
    rwa [sets.unique distinct (assembled.sets distinct)]

end Documents

end Config

/-! ## Order -/

namespace RawSetting

/-- Two values are the same but for the order of the keys in their tables. -/
inductive IsReordered : RawSetting → RawSetting → Prop
  | refl (raw : RawSetting) : IsReordered raw raw
  | swap {entries others : List (Text × RawSetting)} (perm : entries.Perm others) :
      IsReordered (.table entries) (.table others)
  | inside {old new : RawSetting} (front : List (Text × RawSetting)) (key : Text)
      (back : List (Text × RawSetting)) (reordered : IsReordered old new) :
      IsReordered (.table (front ++ (key, old) :: back)) (.table (front ++ (key, new) :: back))
  | trans {first second third : RawSetting} (reordered : IsReordered first second)
      (again : IsReordered second third) : IsReordered first third

namespace IsReordered

variable {raw next : RawSetting}

theorem symm (reordered : IsReordered raw next) : IsReordered next raw := by
  induction reordered with
  | refl raw => exact .refl raw
  | swap perm => exact .swap perm.symm
  | inside front key back _ inductionHypothesis => exact .inside front key back inductionHypothesis
  | trans _ _ first second => exact .trans second first

/-- A value with entries stays one, and each entry is found again, reordered in itself. -/
theorem exists_entries (reordered : IsReordered raw next) {entries : List (Text × RawSetting)}
    (isTable : raw = .table entries) :
    ∃ others, next = .table others ∧
      ∀ key value, (key, value) ∈ entries → ∃ again, (key, again) ∈ others ∧ IsReordered value again := by
  induction reordered generalizing entries with
  | refl raw => exact ⟨entries, isTable, fun _ value member => ⟨value, member, .refl value⟩⟩
  | swap perm =>
      cases isTable
      exact ⟨_, rfl, fun _ value member => ⟨value, perm.mem_iff.mp member, .refl value⟩⟩
  | @inside old new front key back reordered _ =>
      cases isTable
      refine ⟨_, rfl, fun name value member => ?_⟩
      simp only [List.mem_append, List.mem_cons, Prod.mk.injEq] at member ⊢
      rcases member with before | ⟨rfl, rfl⟩ | behind
      · exact ⟨value, .inl before, .refl value⟩
      · exact ⟨new, .inr (.inl ⟨rfl, rfl⟩), reordered⟩
      · exact ⟨value, .inr (.inr behind), .refl value⟩
  | trans _ _ first second =>
      rcases first isTable with ⟨between, same, firstFound⟩
      rcases second same with ⟨others, isOther, secondFound⟩
      refine ⟨others, isOther, fun key value member => ?_⟩
      rcases firstFound key value member with ⟨middle, memberBetween, toMiddle⟩
      rcases secondFound key middle memberBetween with ⟨again, memberAgain, toAgain⟩
      exact ⟨again, memberAgain, toMiddle.trans toAgain⟩

/-- A value without entries stays as it is. -/
theorem eq_of_not_table (reordered : IsReordered raw next) (noTable : ∀ entries, raw ≠ .table entries) :
    next = raw := by
  induction reordered with
  | refl => rfl
  | swap => exact (noTable _ rfl).elim
  | inside => exact (noTable _ rfl).elim
  | trans _ _ first second =>
      have same := first noTable
      rw [second (same ▸ noTable), same]

theorem standsForBoolean (reordered : IsReordered raw next) {value : Bool}
    (stands : raw.StandsForBoolean value) : next.StandsForBoolean value := by
  rwa [reordered.eq_of_not_table (by rintro _ rfl; cases stands)]

theorem standsForMeasure (reordered : IsReordered raw next) {value : Measure.Kind}
    (stands : raw.StandsForMeasure value) : next.StandsForMeasure value := by
  rwa [reordered.eq_of_not_table (by rintro _ rfl; cases stands)]

end IsReordered
end RawSetting

namespace Config

variable {document other : List (Text × RawSetting)} {config : Config}

open RawSetting (IsReordered)

theorem isGiven_of_isReordered (reordered : IsReordered (.table document) (.table other)) {name key : Text}
    {raw : RawSetting} (given : IsGiven document name key raw) :
    ∃ again, IsGiven other name key again ∧ IsReordered raw again := by
  rcases given with ⟨entries, member, inside⟩
  rcases reordered.exists_entries rfl with ⟨_, same, found⟩
  cases same
  rcases found _ _ member with ⟨_, memberOther, inner⟩
  rcases inner.exists_entries rfl with ⟨others, same, foundInside⟩
  cases same
  rcases foundInside _ _ inside with ⟨again, insideOther, reorderedRaw⟩
  exact ⟨again, ⟨others, memberOther, insideOther⟩, reorderedRaw⟩

theorem IsSettled.of_isReordered {β : Type} {name key : Text} {standsFor : RawSetting → β → Prop}
    {fallback value : β} (reordered : IsReordered (.table document) (.table other))
    (kept : ∀ raw again value, IsReordered raw again → standsFor raw value → standsFor again value)
    (settled : IsSettled (IsGiven document name key) standsFor fallback value) :
    IsSettled (IsGiven other name key) standsFor fallback value := by
  rcases settled with ⟨raw, given, stands⟩ | ⟨nothing, same⟩
  · rcases isGiven_of_isReordered reordered given with ⟨again, givenAgain, inner⟩
    exact .inl ⟨again, givenAgain, kept _ _ _ inner stands⟩
  · refine .inr ⟨fun raw given => ?_, same⟩
    rcases isGiven_of_isReordered reordered.symm given with ⟨again, givenAgain, _⟩
    exact nothing again givenAgain

theorem Sets.of_isReordered (reordered : IsReordered (.table document) (.table other))
    (sets : Sets document config) : Sets other config where
  strict := sets.strict.of_isReordered reordered fun _ _ _ inner => inner.standsForBoolean
  measure := sets.measure.of_isReordered reordered fun _ _ _ inner => inner.standsForMeasure
  coerceArguments := sets.coerceArguments.of_isReordered reordered fun _ _ _ inner => inner.standsForBoolean
  noColor := sets.noColor.of_isReordered reordered fun _ _ _ inner => inner.standsForBoolean

theorem Kind.Accepts.of_isReordered {kind : Kind} {raw again : RawSetting} (reordered : IsReordered raw again)
    (accepts : kind.Accepts raw) : kind.Accepts again := by
  cases kind with
  | boolean =>
      rcases accepts with ⟨value, stands⟩
      exact ⟨value, reordered.standsForBoolean stands⟩
  | measure =>
      rcases accepts with ⟨value, stands⟩
      exact ⟨value, reordered.standsForMeasure stands⟩

theorem IsSection.of_isReordered {fields : List (Text × Kind)} {raw again : RawSetting}
    (reordered : IsReordered raw again) (isSection : IsSection fields raw) : IsSection fields again := by
  rcases isSection with ⟨entries, isTable, accepted⟩
  rcases reordered.exists_entries isTable with ⟨others, same, _⟩
  subst isTable same
  rcases reordered.symm.exists_entries rfl with ⟨_, same, found⟩
  cases same
  refine ⟨others, rfl, fun entry member => ?_⟩
  rcases found _ _ member with ⟨old, memberOld, inner⟩
  rcases accepted _ memberOld with ⟨kind, known, accepts⟩
  exact ⟨kind, known, accepts.of_isReordered inner.symm⟩

theorem IsValid.of_isReordered (reordered : IsReordered (.table document) (.table other))
    (valid : IsValid document) : IsValid other := by
  rintro ⟨name, raw⟩ member
  rcases reordered.symm.exists_entries rfl with ⟨_, same, found⟩
  cases same
  rcases found _ _ member with ⟨old, memberOld, inner⟩
  rcases valid _ memberOld with ⟨fields, known, isSection⟩
  exact ⟨fields, known, isSection.of_isReordered inner.symm⟩

/-! ## Files -/

theorem map_fst_entriesOfToml (table : Toml.Table) :
    (RawSetting.entriesOfToml table).map Prod.fst = table.map Prod.fst := by
  induction table with
  | nil => rfl
  | cons entry rest inductionHypothesis =>
      rw [RawSetting.entriesOfToml, List.map_cons, List.map_cons, inductionHypothesis]

theorem exists_of_mem_entriesOfToml {table : Toml.Table} {name : Text} {raw : RawSetting}
    (member : (name, raw) ∈ RawSetting.entriesOfToml table) :
    ∃ value, (name, value) ∈ table ∧ RawSetting.ofToml value = raw := by
  induction table with
  | nil => cases member
  | cons entry rest inductionHypothesis =>
      rw [RawSetting.entriesOfToml] at member
      rcases List.mem_cons.mp member with same | behind
      · cases same
        exact ⟨entry.2, List.mem_cons_self, rfl⟩
      · rcases inductionHypothesis behind with ⟨value, member, same⟩
        exact ⟨value, List.mem_cons_of_mem _ member, same⟩

/-- No key occurs twice in a document that was read. -/
theorem isDistinct_entriesOfToml {table : Toml.Table} (distinct : table.IsDistinct) :
    IsDistinct (RawSetting.entriesOfToml table) := by
  constructor
  · rw [map_fst_entriesOfToml]
    exact distinct.nodup
  · intro name entries member
    rcases exists_of_mem_entriesOfToml member with ⟨value, memberValue, same⟩
    have proper := distinct.each _ memberValue
    cases value with
    | table inner =>
        rw [RawSetting.ofToml, RawSetting.table.injEq] at same
        rw [← same, map_fst_entriesOfToml]
        exact ((Toml.hasDistinctKeys_table_iff inner).mp proper).nodup
    | text | integer | float | boolean | moment | array => cases same

/-- The bytes of a file are a text, and the text is a document. -/
def HoldsDocument (bytes : List UInt8) (document : List (Text × RawSetting)) : Prop :=
  ∃ text table, String.fromUTF8? (ByteArray.mk (withoutMark bytes).toArray) = some text ∧
    Toml.read text.toList = .ok table ∧ RawSetting.entriesOfToml table = document

theorem holdsDocument_bytesOf {text : Text} (table : Toml.Table)
    (noMark : withoutMark (bytesOf text) = bytesOf text) (parsed : Toml.read text = .ok table) :
    HoldsDocument (bytesOf text) (RawSetting.entriesOfToml table) :=
  ⟨String.ofList text, table, by rw [noMark, fromUTF8?_bytesOf], by rwa [String.toList_ofList], rfl⟩

theorem HoldsDocument.isDistinct {bytes : List UInt8} (holds : HoldsDocument bytes document) :
    IsDistinct document := by
  rcases holds with ⟨text, table, _, parsed, rfl⟩
  exact isDistinct_entriesOfToml (Toml.isDistinct_read parsed)

theorem HoldsDocument.load_eq {bytes : List UInt8} (holds : HoldsDocument bytes document)
    (environment : Environment) :
    load (some bytes) environment =
      ((ofDocument document).mapError LoadFailure.invalid).map (override environment) := by
  rcases holds with ⟨text, table, decodes, parsed, rfl⟩
  simp only [load, decodes, ofText, parsed]

theorem mapError_eq_ok_iff {outcome : Except ConfigError Config} :
    outcome.mapError LoadFailure.invalid = .ok config ↔ outcome = .ok config := by
  cases outcome <;> simp [Except.mapError]

/-- The configuration that a file holds: what its document sets, if the document is valid, and what the
environment makes of it. -/
theorem load_eq_ok_iff {bytes : List UInt8} (holds : HoldsDocument bytes document) (environment : Environment) :
    load (some bytes) environment = .ok config ↔
      IsValid document ∧ ∃ plain, Sets document plain ∧ override environment plain = config := by
  simp only [holds.load_eq, map_eq_ok_iff, mapError_eq_ok_iff, ofDocument_eq_ok_iff holds.isDistinct.nodup,
    isAssembled_iff holds.isDistinct, and_assoc, exists_and_left]

theorem override_nil (config : Config) : override [] config = config := rfl

/-- What a file is worth whose bytes are a document.  It is loaded if and only if the document is valid.  Every
setting is then what its value stands for, or the default, but for strictness, which the environment can turn
on.  A document that is not valid has an error of its own.  Documents that differ in the order of their keys
are worth the same.  And without the environment, the document is worth what it is as one section. -/
theorem load_eq_ok_iff_isValid {bytes : List UInt8} (holds : HoldsDocument bytes document)
    (environment : Environment) :
    (∀ config, load (some bytes) environment = .ok config ↔
      IsValid document ∧ ∃ plain, Sets document plain ∧ config =
        { plain with
          parsing := ⟨plain.parsing.strict || flagEnabled (environment.lookup strictVariable)⟩ }) ∧
    (IsValid document → ∃ config, load (some bytes) environment = .ok config) ∧
    (¬ IsValid document → ∃ error, load (some bytes) environment = .error (.invalid error)) ∧
    (∀ otherBytes other, HoldsDocument otherBytes other → IsReordered (.table document) (.table other) →
      ∀ config, load (some bytes) environment = .ok config ↔ load (some otherBytes) environment = .ok config) ∧
    ∀ name plain, load (some bytes) [] = .ok plain ↔ readWhole name (.table document) = .ok plain := by
  have distinct := holds.isDistinct
  refine ⟨fun config => ?_, fun valid => ?_, fun invalid => ?_, ?_, fun name plain => ?_⟩
  · have overridden (plain : Config) : override environment plain =
        { plain with
          parsing := ⟨plain.parsing.strict || flagEnabled (environment.lookup strictVariable)⟩ } := by
      cases enabled : flagEnabled (environment.lookup strictVariable) <;> simp [override, enabled]
    simp only [load_eq_ok_iff holds, overridden, eq_comm]
  · rcases exists_isAssembled valid with ⟨plain, assembled⟩
    exact ⟨_, (load_eq_ok_iff holds environment).mpr ⟨valid, plain, assembled.sets distinct, rfl⟩⟩
  · cases outcome : ofDocument document with
    | ok plain =>
        exact (invalid (((ofDocument_eq_ok_iff distinct.nodup).mp outcome).isValid distinct)).elim
    | error error =>
        refine ⟨error, ?_⟩
        rw [holds.load_eq, outcome]
        rfl
  · intro otherBytes other holdsOther reordered config
    have valid : IsValid document ↔ IsValid other :=
      ⟨fun valid => valid.of_isReordered reordered, fun valid => valid.of_isReordered reordered.symm⟩
    have sets : ∀ plain, Sets document plain ↔ Sets other plain := fun plain =>
      ⟨fun sets => sets.of_isReordered reordered, fun sets => sets.of_isReordered reordered.symm⟩
    simp only [load_eq_ok_iff holds, load_eq_ok_iff holdsOther, valid, sets]
  · simp only [load_eq_ok_iff holds, override_nil, exists_eq_right, readWhole_eq_ok_iff distinct.nodup,
      isAssembled_iff distinct]

/-- A file with two sections, in which strictness is turned off and no measure is given. -/
def lenientDocument : Text :=
  "[cli]\nno_color = ' TRUE'\ncoerce_arguments = 0\n[parsing]\nstrict = false".toList

/-- The same settings in another order. -/
def reorderedDocument : Text :=
  "[parsing]\nstrict = false\n[cli]\ncoerce_arguments = 0\nno_color = ' TRUE'".toList

theorem load_eq_ok_iff_isValid_reorderedDocument :
    let noColor : Text × RawSetting := ("no_color".toList, .text " TRUE".toList)
    let coerce : Text × RawSetting := ("coerce_arguments".toList, .integer 0)
    let parsing : Text × RawSetting := ("parsing".toList, .table [("strict".toList, .boolean false)])
    let document := [("cli".toList, .table [noColor, coerce]), parsing]
    let other := [parsing, ("cli".toList, .table [coerce, noColor])]
    HoldsDocument (bytesOf lenientDocument) document ∧ HoldsDocument (bytesOf reorderedDocument) other ∧
      IsReordered (.table document) (.table other) ∧ IsValid document ∧
      load (some (bytesOf lenientDocument)) [] = .ok ⟨⟨false⟩, ⟨.chars⟩, ⟨false, true⟩⟩ ∧
      load (some (bytesOf reorderedDocument)) [(strictVariable, "1".toList)] =
        .ok ⟨⟨true⟩, ⟨.chars⟩, ⟨false, true⟩⟩ := by
  intro noColor coerce parsing document other
  have holds : HoldsDocument (bytesOf lenientDocument) document :=
    holdsDocument_bytesOf [("cli".toList, .table [("no_color".toList, .text " TRUE".toList),
      ("coerce_arguments".toList, .integer 0)]), ("parsing".toList, .table [("strict".toList, .boolean false)])]
      rfl (by cbv)
  have holdsOther : HoldsDocument (bytesOf reorderedDocument) other :=
    holdsDocument_bytesOf [("parsing".toList, .table [("strict".toList, .boolean false)]),
      ("cli".toList, .table [("coerce_arguments".toList, .integer 0),
        ("no_color".toList, .text " TRUE".toList)])] rfl (by cbv)
  have reordered : IsReordered (.table document) (.table other) :=
    .trans (.inside [] _ [parsing] (.swap (.swap _ _ _))) (.swap (.swap _ _ _))
  have on : noColor.2.StandsForBoolean true := .on (by decide)
  have valid : IsValid document := by
    refine List.forall_mem_cons.mpr ⟨?_, List.forall_mem_singleton.mpr ?_⟩
    · exact ⟨_, List.mem_cons_of_mem _ (List.mem_cons_of_mem _ List.mem_cons_self), _, rfl,
        List.forall_mem_cons.mpr ⟨⟨.boolean, List.mem_cons_of_mem _ List.mem_cons_self, true, on⟩,
          List.forall_mem_singleton.mpr ⟨.boolean, List.mem_cons_self, false, .zero⟩⟩⟩
    · exact ⟨_, List.mem_cons_self, _, rfl,
        List.forall_mem_singleton.mpr ⟨.boolean, List.mem_cons_self, false, .boolean false⟩⟩
  have absent : ∀ raw, ¬ IsGiven document "render".toList "measure".toList raw := by
    rintro raw ⟨entries, member, _⟩
    have named : "render".toList ∈ document.map Prod.fst := List.mem_map_of_mem member
    revert named
    decide
  have sets : Sets document ⟨⟨false⟩, ⟨.chars⟩, ⟨false, true⟩⟩ :=
    ⟨.inl ⟨_, ⟨_, List.mem_cons_of_mem _ List.mem_cons_self, List.mem_cons_self⟩, .boolean false⟩,
      .inr ⟨absent, rfl⟩,
      .inl ⟨_, ⟨_, List.mem_cons_self, List.mem_cons_of_mem _ List.mem_cons_self⟩, .zero⟩,
      .inl ⟨_, ⟨_, List.mem_cons_self, List.mem_cons_self⟩, on⟩⟩
  have settled := (load_eq_ok_iff_isValid holds []).1 ⟨⟨false⟩, ⟨.chars⟩, ⟨false, true⟩⟩
  obtain ⟨enabled, -, -, alike, -⟩ := load_eq_ok_iff_isValid holds [(strictVariable, "1".toList)]
  exact ⟨holds, holdsOther, reordered, valid, settled.mpr ⟨valid, _, sets, rfl⟩,
    (alike _ _ holdsOther reordered _).mp ((enabled _).mpr ⟨valid, _, sets, by cbv⟩)⟩

end Config
end FieldText
