import FieldText.Config.Load
import FieldText.Proofs.Tables

/-!
How a section of a configuration is read.  Each of its entries is stored by the setting for its key.  A setting
takes the values that stand for something of its type, and puts that in its place; it does not change any other
place, and it does not matter what was stored before.  So an entry is refused or taken for itself, and what is
in a place afterwards is settled by the one entry with its key, or by the default if there is none.
-/

namespace FieldText

namespace RawSetting

/-! ## What a value stands for -/

/-- A value that a boolean setting takes: a boolean, zero or one, or a word for either, in letters of any size
and with any blanks around it. -/
inductive StandsForBoolean : RawSetting → Bool → Prop
  | boolean (value : Bool) : StandsForBoolean (.boolean value) value
  | zero : StandsForBoolean (.integer 0) false
  | one : StandsForBoolean (.integer 1) true
  | off {content : Text} (word : Text.folded content ∈ ["0".toList, "false".toList]) :
      StandsForBoolean (.text content) false
  | on {content : Text} (word : Text.folded content ∈ ["1".toList, "true".toList]) :
      StandsForBoolean (.text content) true

/-- A value that a setting for a measure takes: a measure, or the word for it. -/
inductive StandsForMeasure : RawSetting → Measure.Kind → Prop
  | measure (value : Measure.Kind) : StandsForMeasure (.measure value) value
  | text {content : Text} {value : Measure.Kind} (word : Text.folded content = value.name) :
      StandsForMeasure (.text content) value

theorem boolean?_eq_some_iff (raw : RawSetting) (value : Bool) :
    raw.boolean? = some value ↔ raw.StandsForBoolean value := by
  constructor
  · intro read
    cases raw with
    | boolean flag =>
        cases read
        exact .boolean _
    | integer number =>
        simp only [boolean?] at read
        split at read
        · next zero =>
            cases read
            exact zero ▸ .zero
        · split at read
          · next one =>
              cases read
              exact one ▸ .one
          · cases read
    | text content =>
        simp only [boolean?] at read
        split at read
        · next word =>
            cases read
            exact .off (by simpa using word)
        · split at read
          · next word =>
              cases read
              exact .on (by simpa using word)
          · cases read
    | measure | table | other => cases read
  · rintro (_ | _ | _ | word | word)
    · rfl
    · rfl
    · rfl
    · rcases List.mem_pair.mp word with word | word
      · simp only [boolean?, word]
        rfl
      · simp only [boolean?, word]
        rfl
    · rcases List.mem_pair.mp word with word | word
      · simp only [boolean?, word]
        rfl
      · simp only [boolean?, word]
        rfl

theorem ofName?_eq_some_iff (word : Text) (value : Measure.Kind) :
    Measure.Kind.ofName? word = some value ↔ word = value.name := by
  constructor
  · intro found
    unfold Measure.Kind.ofName? at found
    have named := List.find?_some found
    exact (beq_iff_eq.mp named).symm
  · rintro rfl
    cases value <;> rfl

theorem measure?_eq_some_iff (raw : RawSetting) (value : Measure.Kind) :
    raw.measure? = some value ↔ raw.StandsForMeasure value := by
  constructor
  · intro read
    cases raw with
    | measure known =>
        cases read
        exact .measure _
    | text content => exact .text ((ofName?_eq_some_iff _ _).mp read)
    | boolean | integer | table | other => cases read
  · rintro (_ | word)
    · rfl
    · exact (ofName?_eq_some_iff _ _).mpr word

theorem StandsForBoolean.unique {raw : RawSetting} {first second : Bool} (stands : raw.StandsForBoolean first)
    (also : raw.StandsForBoolean second) : first = second :=
  Option.some.inj (((boolean?_eq_some_iff _ _).mpr stands).symm.trans ((boolean?_eq_some_iff _ _).mpr also))

theorem StandsForMeasure.unique {raw : RawSetting} {first second : Measure.Kind}
    (stands : raw.StandsForMeasure first) (also : raw.StandsForMeasure second) : first = second :=
  Option.some.inj (((measure?_eq_some_iff _ _).mpr stands).symm.trans ((measure?_eq_some_iff _ _).mpr also))

end RawSetting

namespace Config

/-! ## Settings -/

section Settings

variable {α β : Type} {setting : Setting α} {settings : List (Setting α)}

/-- A setting takes the values that stand for something, and puts that in its place.  The name under which it
does so only shows in errors. -/
def Setting.Coerces (setting : Setting α) (standsFor : RawSetting → β → Prop) (put : β → α → α) : Prop :=
  ∀ name raw values result, setting.store name raw values = .ok result ↔
    ∃ value, standsFor raw value ∧ put value values = result

theorem coerces_booleanSetting (key : String) (put : Bool → α → α) :
    (booleanSetting key put).Coerces RawSetting.StandsForBoolean put := by
  intro name raw values result
  simp only [booleanSetting, ← RawSetting.boolean?_eq_some_iff]
  cases raw.boolean? <;> simp

theorem coerces_measureSetting (key : String) (put : Measure.Kind → α → α) :
    (measureSetting key put).Coerces RawSetting.StandsForMeasure put := by
  intro name raw values result
  simp only [measureSetting, ← RawSetting.measure?_eq_some_iff]
  cases raw.measure? <;> simp

/-- A setting takes a value, whatever was stored before and under any name. -/
def Setting.Accepts (setting : Setting α) (raw : RawSetting) : Prop :=
  ∀ name values, ∃ result, setting.store name raw values = .ok result

/-- Whether a setting takes a value does not depend on what was stored before, and what it stores does not
depend on the name. -/
structure Setting.IsUniform (setting : Setting α) : Prop where
  accepts : ∀ name raw values result, setting.store name raw values = .ok result → setting.Accepts raw
  store_congr : ∀ name other raw values result, setting.store name raw values = .ok result →
    setting.store other raw values = .ok result

theorem Setting.Coerces.accepts_iff {standsFor : RawSetting → β → Prop} {put : β → α → α}
    (coerces : setting.Coerces standsFor put) (values : α) (raw : RawSetting) :
    setting.Accepts raw ↔ ∃ value, standsFor raw value := by
  constructor
  · intro accepts
    rcases accepts [] values with ⟨result, stored⟩
    rcases (coerces _ _ _ _).mp stored with ⟨value, stands, _⟩
    exact ⟨value, stands⟩
  · rintro ⟨value, stands⟩ name values
    exact ⟨_, (coerces _ _ _ _).mpr ⟨value, stands, rfl⟩⟩

theorem Setting.Coerces.isUniform {standsFor : RawSetting → β → Prop} {put : β → α → α}
    (coerces : setting.Coerces standsFor put) : setting.IsUniform := by
  constructor
  · intro name raw values result stored
    rcases (coerces _ _ _ _).mp stored with ⟨value, stands, _⟩
    exact (coerces.accepts_iff values raw).mpr ⟨value, stands⟩
  · intro name other raw values result stored
    exact (coerces _ _ _ _).mpr ((coerces _ _ _ _).mp stored)

/-! ## Entries -/

/-- A value is what is given for it stands for, or a fallback if nothing is given. -/
def IsSettled (given : RawSetting → Prop) (standsFor : RawSetting → β → Prop) (fallback value : β) : Prop :=
  (∃ raw, given raw ∧ standsFor raw value) ∨ (∀ raw, ¬ given raw) ∧ value = fallback

theorem IsSettled.unique {given : RawSetting → Prop} {standsFor : RawSetting → β → Prop}
    {fallback first second : β} (once : ∀ raw again, given raw → given again → raw = again)
    (functional : ∀ raw value other, standsFor raw value → standsFor raw other → value = other)
    (settled : IsSettled given standsFor fallback first) (also : IsSettled given standsFor fallback second) :
    first = second := by
  rcases settled with ⟨raw, isGiven, stands⟩ | ⟨nothing, rfl⟩
  · rcases also with ⟨again, againGiven, againStands⟩ | ⟨nothing, _⟩
    · cases once _ _ isGiven againGiven
      exact functional _ _ _ stands againStands
    · exact (nothing raw isGiven).elim
  · rcases also with ⟨raw, isGiven, _⟩ | ⟨_, rfl⟩
    · exact (nothing raw isGiven).elim
    · rfl

theorem storeEntry_eq_ok_iff {name : Text} {values result : α} {entry : Text × RawSetting} :
    storeEntry settings name values entry = .ok result ↔
      ∃ setting, settings.find? (fun setting => setting.key = entry.1) = some setting ∧
        setting.store (fullName name entry.1) entry.2 values = .ok result := by
  unfold storeEntry
  cases settings.find? fun setting => setting.key = entry.1 <;> simp

/-- A section is read if and only if each of its entries is one that a setting takes. -/
theorem exists_foldlM_iff (uniform : ∀ setting ∈ settings, setting.IsUniform) (name : Text)
    (entries : List (Text × RawSetting)) (start : α) :
    (∃ result, entries.foldlM (storeEntry settings name) start = .ok result) ↔
      ∀ entry ∈ entries, ∃ setting, settings.find? (fun setting => setting.key = entry.1) = some setting ∧
        setting.Accepts entry.2 := by
  induction entries generalizing start with
  | nil => exact ⟨fun _ => nofun, fun _ => ⟨start, rfl⟩⟩
  | cons entry rest inductionHypothesis =>
      rw [List.forall_mem_cons, List.foldlM_cons]
      constructor
      · rintro ⟨result, read⟩
        rcases bind_eq_ok_iff.mp read with ⟨next, stored, behind⟩
        rcases storeEntry_eq_ok_iff.mp stored with ⟨setting, found, stored⟩
        exact ⟨⟨setting, found, (uniform setting (List.mem_of_find?_eq_some found)).accepts _ _ _ _ stored⟩,
          (inductionHypothesis next).mp ⟨result, behind⟩⟩
      · rintro ⟨⟨setting, found, accepts⟩, others⟩
        rcases accepts (fullName name entry.1) start with ⟨next, stored⟩
        rcases (inductionHypothesis next).mpr others with ⟨result, behind⟩
        exact ⟨result, bind_eq_ok_iff.mpr ⟨next, storeEntry_eq_ok_iff.mpr ⟨setting, found, stored⟩, behind⟩⟩

/-- A setting leaves in a place what a value stands for. -/
def Setting.Stores (setting : Setting α) (standsFor : RawSetting → β → Prop) (get : α → β) : Prop :=
  ∀ name raw values result, setting.store name raw values = .ok result → standsFor raw (get result)

/-- A setting does not change a place. -/
def Setting.Leaves (setting : Setting α) (get : α → β) : Prop :=
  ∀ name raw values result, setting.store name raw values = .ok result → get result = get values

theorem Setting.Coerces.stores {standsFor : RawSetting → β → Prop} {put : β → α → α}
    (coerces : setting.Coerces standsFor put) {get : α → β}
    (same : ∀ value values, get (put value values) = value) : setting.Stores standsFor get := by
  intro name raw values result stored
  rcases (coerces _ _ _ _).mp stored with ⟨value, stands, rfl⟩
  rwa [same]

theorem Setting.Coerces.leaves {γ : Type} {standsFor : RawSetting → β → Prop} {put : β → α → α}
    (coerces : setting.Coerces standsFor put) {get : α → γ}
    (kept : ∀ value values, get (put value values) = get values) : setting.Leaves get := by
  intro name raw values result stored
  rcases (coerces _ _ _ _).mp stored with ⟨value, _, rfl⟩
  exact kept value values

/-- The settings with a certain key store in a place, and the others leave it. -/
def Keeps (settings : List (Setting α)) (key : Text) (standsFor : RawSetting → β → Prop) (get : α → β) :
    Prop :=
  ∀ setting ∈ settings,
    (setting.key = key ∧ setting.Stores standsFor get) ∨ (setting.key ≠ key ∧ setting.Leaves get)

/-- What is in a place after reading is settled by the entry for it. -/
theorem Keeps.isSettled {key : Text} {standsFor : RawSetting → β → Prop} {get : α → β}
    (keeps : Keeps settings key standsFor get) {name : Text} {entries : List (Text × RawSetting)}
    (nodup : (entries.map Prod.fst).Nodup) {start result : α}
    (read : entries.foldlM (storeEntry settings name) start = .ok result) :
    IsSettled (fun raw => (key, raw) ∈ entries) standsFor (get start) (get result) := by
  induction entries generalizing start with
  | nil =>
      cases read
      exact .inr ⟨nofun, rfl⟩
  | cons entry rest inductionHypothesis =>
      rcases List.nodup_cons.mp nodup with ⟨notAgain, nodupRest⟩
      rcases bind_eq_ok_iff.mp read with ⟨next, stored, behind⟩
      rcases storeEntry_eq_ok_iff.mp stored with ⟨setting, found, stored⟩
      have member := List.mem_of_find?_eq_some found
      have named : setting.key = entry.1 := by simpa using List.find?_some found
      rcases entry with ⟨first, raw⟩
      rcases keeps setting member with ⟨same, stores⟩ | ⟨apart, leaves⟩
      · -- The place is settled here, and is not touched again.
        obtain rfl : key = first := same.symm.trans named
        have missing : ∀ later, (key, later) ∉ rest := fun later again =>
          notAgain (List.mem_map.mpr ⟨_, again, rfl⟩)
        rcases inductionHypothesis nodupRest behind with ⟨later, again, _⟩ | ⟨_, kept⟩
        · exact (missing later again).elim
        · rw [kept]
          exact .inl ⟨raw, List.mem_cons_self, stores _ _ _ _ stored⟩
      · have differs : key ≠ first := fun same => apart (named.trans same.symm)
        have behindIff : ∀ later, (key, later) ∈ (first, raw) :: rest ↔ (key, later) ∈ rest := fun later => by
          simp [differs]
        rw [← leaves _ _ _ _ stored]
        simpa only [IsSettled, behindIff] using inductionHypothesis nodupRest behind

end Settings

/-! ## Sections -/

/-- The types of settings. -/
inductive Kind where
  | boolean
  | measure

/-- The values that settings of a type take. -/
def Kind.Accepts : Kind → RawSetting → Prop
  | boolean, raw => ∃ value, raw.StandsForBoolean value
  | measure, raw => ∃ value, raw.StandsForMeasure value

/-- The sections and their fields. -/
def sectionFields : List (Text × List (Text × Kind)) :=
  [("parsing".toList, [("strict".toList, .boolean)]),
    ("render".toList, [("measure".toList, .measure)]),
    ("cli".toList, [("coerce_arguments".toList, .boolean), ("no_color".toList, .boolean)])]

/-- A value is a table of fields with values that they take. -/
def IsSection (fields : List (Text × Kind)) (raw : RawSetting) : Prop :=
  ∃ entries, raw = .table entries ∧
    ∀ entry ∈ entries, ∃ kind, (entry.1, kind) ∈ fields ∧ kind.Accepts entry.2

section Sections

variable {α : Type} {settings : List (Setting α)} {fields : List (Text × Kind)}

/-- The settings are those for the fields. -/
def Describes (settings : List (Setting α)) (fields : List (Text × Kind)) : Prop :=
  List.Forall₂ (fun setting field => setting.IsUniform ∧ setting.key = field.1 ∧
    ∀ raw, setting.Accepts raw ↔ field.2.Accepts raw) settings fields

theorem Describes.isUniform (described : Describes settings fields) :
    ∀ setting ∈ settings, setting.IsUniform := by
  induction described with
  | nil => exact nofun
  | cons describes _ inductionHypothesis => exact List.forall_mem_cons.mpr ⟨describes.1, inductionHypothesis⟩

theorem exists_find?_iff (described : Describes settings fields) (nodup : (fields.map Prod.fst).Nodup)
    (key : Text) (raw : RawSetting) :
    (∃ setting, settings.find? (fun setting => setting.key = key) = some setting ∧ setting.Accepts raw) ↔
      ∃ kind, (key, kind) ∈ fields ∧ kind.Accepts raw := by
  induction described with
  | nil => simp
  | @cons setting field _ _ describes _ inductionHypothesis =>
      rcases List.nodup_cons.mp nodup with ⟨notAgain, nodupRest⟩
      rcases field with ⟨name, kind⟩
      rcases describes with ⟨_, named, accepts⟩
      by_cases same : name = key
      · subst same
        have missing : ∀ kind, (name, kind) ∉ _ := fun kind again =>
          notAgain (List.mem_map.mpr ⟨_, again, rfl⟩)
        rw [List.find?_cons_of_pos (by simpa using named)]
        simp [accepts, missing]
      · rw [List.find?_cons_of_neg (by simpa [named] using same), inductionHypothesis nodupRest]
        simp [Ne.symm same]

/-- A reader of sections: it reads exactly the tables of fields, and what it reads does not depend on the name
in its errors.  An empty table leaves the defaults. -/
structure ReadsSection (read : Text → RawSetting → Except ConfigError α) (fields : List (Text × Kind))
    (defaults : α) : Prop where
  exists_iff : ∀ name raw, (∃ values, read name raw = .ok values) ↔ IsSection fields raw
  congr : ∀ name other raw values, read name raw = .ok values → read other raw = .ok values
  empty : ∀ name, read name (.table []) = .ok defaults

theorem foldlM_congr (uniform : ∀ setting ∈ settings, setting.IsUniform) {name other : Text}
    {entries : List (Text × RawSetting)} {start result : α}
    (read : entries.foldlM (storeEntry settings name) start = .ok result) :
    entries.foldlM (storeEntry settings other) start = .ok result := by
  induction entries generalizing start with
  | nil => exact read
  | cons entry rest inductionHypothesis =>
      rcases bind_eq_ok_iff.mp read with ⟨next, stored, behind⟩
      rcases storeEntry_eq_ok_iff.mp stored with ⟨setting, found, stored⟩
      have same := (uniform setting (List.mem_of_find?_eq_some found)).store_congr _ (fullName other entry.1)
        _ _ _ stored
      exact bind_eq_ok_iff.mpr
        ⟨next, storeEntry_eq_ok_iff.mpr ⟨setting, found, same⟩, inductionHypothesis behind⟩

theorem readsSection_readSection (described : Describes settings fields)
    (nodup : (fields.map Prod.fst).Nodup) (defaults : α) :
    ReadsSection (readSection settings defaults) fields defaults := by
  have uniform := described.isUniform
  constructor
  · intro name raw
    cases raw with
    | table entries =>
        simp only [readSection, exists_foldlM_iff uniform, exists_find?_iff described nodup, IsSection]
        simp
    | boolean | integer | text | measure | other =>
        constructor
        · rintro ⟨_, read⟩
          cases read
        · rintro ⟨_, same, _⟩
          cases same
  · intro name other raw values read
    cases raw with
    | table entries => exact foldlM_congr uniform read
    | boolean | integer | text | measure | other => cases read
  · exact fun _ => rfl

end Sections

/-! ## The sections -/

theorem readsSection_readParsing :
    ReadsSection readParsing [("strict".toList, .boolean)] default.parsing := by
  refine readsSection_readSection (.cons ⟨?_, rfl, fun raw => ?_⟩ .nil) (by decide) _
  · exact (coerces_booleanSetting _ _).isUniform
  · exact (coerces_booleanSetting _ _).accepts_iff default.parsing raw

theorem readsSection_readRender :
    ReadsSection readRender [("measure".toList, .measure)] default.render := by
  refine readsSection_readSection (.cons ⟨?_, rfl, fun raw => ?_⟩ .nil) (by decide) _
  · exact (coerces_measureSetting _ _).isUniform
  · exact (coerces_measureSetting _ _).accepts_iff default.render raw

theorem readsSection_readCommand :
    ReadsSection readCommand [("coerce_arguments".toList, .boolean), ("no_color".toList, .boolean)]
      default.command := by
  refine readsSection_readSection
    (.cons ⟨?_, rfl, fun raw => ?_⟩ (.cons ⟨?_, rfl, fun raw => ?_⟩ .nil)) (by decide) _
  · exact (coerces_booleanSetting _ _).isUniform
  · exact (coerces_booleanSetting _ _).accepts_iff default.command raw
  · exact (coerces_booleanSetting _ _).isUniform
  · exact (coerces_booleanSetting _ _).accepts_iff default.command raw

theorem keeps_strict :
    Keeps parsingSettings "strict".toList RawSetting.StandsForBoolean ParsingSection.strict :=
  List.forall_mem_singleton.mpr (.inl ⟨rfl, (coerces_booleanSetting _ _).stores fun _ _ => rfl⟩)

theorem keeps_measure :
    Keeps renderSettings "measure".toList RawSetting.StandsForMeasure RenderSection.measure :=
  List.forall_mem_singleton.mpr (.inl ⟨rfl, (coerces_measureSetting _ _).stores fun _ _ => rfl⟩)

theorem keeps_coerceArguments :
    Keeps commandSettings "coerce_arguments".toList RawSetting.StandsForBoolean
      CommandSection.coerceArguments :=
  List.forall_mem_cons.mpr ⟨.inl ⟨rfl, (coerces_booleanSetting _ _).stores fun _ _ => rfl⟩,
    List.forall_mem_singleton.mpr
      (.inr ⟨by decide, (coerces_booleanSetting _ _).leaves fun _ _ => rfl⟩)⟩

theorem keeps_noColor :
    Keeps commandSettings "no_color".toList RawSetting.StandsForBoolean CommandSection.noColor :=
  List.forall_mem_cons.mpr ⟨.inr ⟨by decide, (coerces_booleanSetting _ _).leaves fun _ _ => rfl⟩,
    List.forall_mem_singleton.mpr (.inl ⟨rfl, (coerces_booleanSetting _ _).stores fun _ _ => rfl⟩)⟩

end Config
end FieldText
