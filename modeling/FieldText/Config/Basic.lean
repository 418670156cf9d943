import FieldText.Measure

/-!
The configuration: three sections of settings, each with its defaults, and the environment variables
that override them.
-/

namespace FieldText

structure ParsingSection where
  strict : Bool
  deriving DecidableEq, Repr

structure RenderSection where
  measure : Measure.Kind
  deriving DecidableEq, Repr

/-- How the command line treats its arguments and its output. -/
structure CommandSection where
  coerceArguments : Bool
  noColor : Bool
  deriving DecidableEq, Repr

structure Config where
  parsing : ParsingSection
  render : RenderSection
  command : CommandSection
  deriving DecidableEq, Repr

abbrev Environment := List (Text × Text)

namespace Config

def default : Config := ⟨⟨false⟩, ⟨.chars⟩, ⟨true, false⟩⟩

def strictVariable : Text := "FORMATV_STRICT".toList

def fileVariable : Text := "FORMATV_CONFIG".toList

def offWords : List Text := ["0".toList, "false".toList, "no".toList, "off".toList]

/-- Whether the value of a variable turns a flag on: any value does that is not blank and not one of
the words for off. -/
def flagEnabled (value : Option Text) : Bool :=
  match value with
  | none => false
  | some raw =>
    let word := Text.folded raw
    !word.isEmpty && !offWords.contains word

/-- Turn strict parsing on when the environment asks for it. -/
def override (environment : Environment) (config : Config) : Config :=
  if flagEnabled (environment.lookup strictVariable) then { config with parsing := ⟨true⟩ } else config

def fresh (environment : Environment) : Config := override environment default

end Config
end FieldText
