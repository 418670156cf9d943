import FieldText.Config.Basic
import FieldText.Toml.Document

/-!
Reading a configuration.  Every section is a table whose keys are the settings of the section; the
values are coerced to the type of their setting, and the first thing that does not fit is an error.
A whole configuration can be read in two ways: as a section whose settings are the three sections, in
the order in which they are written, or as a document, which is checked for unknown sections first and
then section by section in a fixed order.
-/

namespace FieldText

/-- A value from outside, as far as settings care about it. -/
inductive RawSetting where
  | boolean (value : Bool)
  | integer (value : Int)
  | text (content : Text)
  /-- A measure that was selected before. -/
  | measure (value : Measure.Kind)
  | table (entries : List (Text × RawSetting))
  /-- Any other value. -/
  | other

/-- What is wrong with a configuration. -/
inductive ConfigError where
  | notUtf8
  | malformedToml
  | unknownSections (names : List Text)
  | notATable (name : Text)
  | unknownKey (name key : Text)
  | notABoolean (setting : Text)
  | notAMeasure (setting : Text)
  deriving DecidableEq, Repr

/-- The wording of an error of the configuration. -/
def ConfigError.message : ConfigError → Text
  | notUtf8 => "Configuration file must be UTF-8 encoded".toList
  | malformedToml => "Failed to parse TOML".toList
  | unknownSections names =>
    "Unknown configuration sections: ".toList ++ Text.join ", ".toList names
  | notATable name => '[' :: name ++ "] must be a table".toList
  | unknownKey name key => "Unknown key in [".toList ++ name ++ "]: ".toList ++ key
  | notABoolean setting => setting ++ " must be a boolean (use true/false).".toList
  | notAMeasure setting =>
    setting ++ " must be one of: ".toList ++ Text.join ", ".toList (Measure.Kind.all.map Measure.Kind.name)

/-- Why no configuration was loaded. -/
inductive LoadFailure where
  | missingFile
  | invalid (error : ConfigError)
  /-- An integer in the file is too long to convert. -/
  | numeralTooLong
  deriving DecidableEq, Repr

namespace RawSetting

mutual

/-- The part of a TOML value that settings care about. -/
def ofToml : Toml.Value → RawSetting
  | .boolean value => boolean value
  | .integer value => integer value
  | .text content => text content
  | .table entries => table (entriesOfToml entries)
  | _ => other

def entriesOfToml : List (Text × Toml.Value) → List (Text × RawSetting)
  | [] => []
  | (key, value) :: rest => (key, ofToml value) :: entriesOfToml rest

end

/-- The boolean that a value stands for: a boolean, one of the integers zero and one, or one of four
words. -/
def boolean? : RawSetting → Option Bool
  | boolean value => some value
  | integer value => if value = 0 then some false else if value = 1 then some true else none
  | text content =>
    let word := Text.folded content
    if word == "0".toList || word == "false".toList then some false
    else if word == "1".toList || word == "true".toList then some true
    else none
  | _ => none

/-- The measure that a value stands for: a measure, or the word for one. -/
def measure? : RawSetting → Option Measure.Kind
  | measure value => some value
  | text content => Measure.Kind.ofName? (Text.folded content)
  | _ => none

end RawSetting

namespace Config

/-- A setting of a section: its key, and how a value is stored under its full name. -/
structure Setting (α : Type) where
  key : Text
  store : Text → RawSetting → α → Except ConfigError α

def fullName (name key : Text) : Text := name ++ '.' :: key

/-- A setting that is a boolean. -/
def booleanSetting {α : Type} (key : String) (put : Bool → α → α) : Setting α where
  key := key.toList
  store := fun setting raw values =>
    match raw.boolean? with
    | some value => .ok (put value values)
    | none => .error (.notABoolean setting)

/-- A setting that is a measure. -/
def measureSetting {α : Type} (key : String) (put : Measure.Kind → α → α) : Setting α where
  key := key.toList
  store := fun setting raw values =>
    match raw.measure? with
    | some value => .ok (put value values)
    | none => .error (.notAMeasure setting)

def storeEntry {α : Type} (settings : List (Setting α)) (name : Text) (values : α)
    (entry : Text × RawSetting) : Except ConfigError α :=
  match settings.find? fun setting => setting.key = entry.1 with
  | none => .error (.unknownKey name entry.1)
  | some setting => setting.store (fullName name entry.1) entry.2 values

/-- Read a section: start from the defaults and store the entries in order. -/
def readSection {α : Type} (settings : List (Setting α)) (defaults : α) (name : Text)
    (raw : RawSetting) : Except ConfigError α :=
  match raw with
  | .table entries => entries.foldlM (storeEntry settings name) defaults
  | _ => .error (.notATable name)

def parsingSettings : List (Setting ParsingSection) :=
  [booleanSetting "strict" fun value values => { values with strict := value }]

def renderSettings : List (Setting RenderSection) :=
  [measureSetting "measure" fun value values => { values with measure := value }]

def commandSettings : List (Setting CommandSection) :=
  [booleanSetting "coerce_arguments" fun value values => { values with coerceArguments := value },
    booleanSetting "no_color" fun value values => { values with noColor := value }]

def readParsing : Text → RawSetting → Except ConfigError ParsingSection :=
  readSection parsingSettings default.parsing

def readRender : Text → RawSetting → Except ConfigError RenderSection :=
  readSection renderSettings default.render

def readCommand : Text → RawSetting → Except ConfigError CommandSection :=
  readSection commandSettings default.command

/-- The sections as settings of the whole configuration. -/
def sections : List (Setting Config) :=
  [⟨"parsing".toList, fun name raw config =>
      (readParsing name raw).map fun values => { config with parsing := values }⟩,
    ⟨"render".toList, fun name raw config =>
      (readRender name raw).map fun values => { config with render := values }⟩,
    ⟨"cli".toList, fun name raw config =>
      (readCommand name raw).map fun values => { config with command := values }⟩]

/-- Read a whole configuration as one section. -/
def readWhole : Text → RawSetting → Except ConfigError Config := readSection sections default

/-- Read a section of a document; a section that is not there has no entries. -/
def readPart {α : Type} (read : Text → RawSetting → Except ConfigError α) (name : String)
    (document : List (Text × RawSetting)) : Except ConfigError α :=
  read name.toList ((document.lookup name.toList).getD (.table []))

/-- The names in a document that are not the names of sections, in order of their characters. -/
def unknownNames (document : List (Text × RawSetting)) : List Text :=
  ((document.map Prod.fst).filter fun name => !(sections.map Setting.key).contains name).mergeSort
    Text.notAfter

/-- Read the sections of a document. -/
def ofDocument (document : List (Text × RawSetting)) : Except ConfigError Config := do
  let unknown := unknownNames document
  if unknown.isEmpty then
    let parsing ← readPart readParsing "parsing" document
    let render ← readPart readRender "render" document
    let command ← readPart readCommand "cli" document
    pure ⟨parsing, render, command⟩
  else throw (.unknownSections unknown)

def byteOrderMark : List UInt8 := [0xEF, 0xBB, 0xBF]

/-- The bytes of a file behind its mark. -/
def withoutMark (bytes : List UInt8) : List UInt8 :=
  if byteOrderMark.isPrefixOf bytes then bytes.drop byteOrderMark.length else bytes

def ofText (text : Text) : Except LoadFailure Config :=
  match Toml.read text with
  | .error .malformed => .error (.invalid .malformedToml)
  | .error .numeralTooLong => .error .numeralTooLong
  | .ok table => (ofDocument (RawSetting.entriesOfToml table)).mapError LoadFailure.invalid

/-- Read a configuration from the bytes of a file, and let the environment override it. -/
def load (file : Option (List UInt8)) (environment : Environment) : Except LoadFailure Config :=
  match file with
  | none => .error .missingFile
  | some bytes =>
    match String.fromUTF8? (ByteArray.mk (withoutMark bytes).toArray) with
    | none => .error (.invalid .notUtf8)
    | some text => (ofText text.toList).map (override environment)

end Config
end FieldText
