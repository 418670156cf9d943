import FieldText.Coercion
import FieldText.CommandLine.Arguments
import FieldText.Config.Load
import FieldText.Text.Json
import FieldText.Text.Table
import FieldText.Text.Terminal
import FieldText.Workspace

/-!
The command line.  Common options stand in front of a command; `render` formats its operands and
`parse` shows how a format string is split.  A run depends on the words, the environment and the
content of the configuration file, and yields an exit code and the texts for both outputs.  Errors are
found in a fixed order: the common options, the name of the command, the configuration, the words of
the command, and then the work itself.
-/

namespace FieldText
namespace CommandLine

/-- What a run leaves behind.  Of a usage error nothing but its exit code is specified. -/
structure Outcome where
  exitCode : Nat
  output : Text
  errors : Text
  /-- The fault that ended the run without being expected. -/
  fault : Option Fault
  notices : List Notice

namespace Outcome

def usage : Outcome := ⟨2, [], [], none, []⟩

def done (output : Text) (notices : List Notice) : Outcome := ⟨0, output, [], none, notices⟩

/-- The run ends with an error that is explained. -/
def explained (message : Text) : Outcome :=
  ⟨1, [], "Error: ".toList ++ message ++ ['\n'], none, []⟩

/-- The run breaks off; what was printed before remains. -/
def broken (output : Text) (fault : Fault) (notices : List Notice) : Outcome :=
  ⟨1, output, [], some fault, notices⟩

def isUsage (outcome : Outcome) : Bool := outcome.exitCode = 2

end Outcome

/-! ## Options and commands -/

/-- A flag with a long spelling only. -/
def flag (key long : String) : OptionRule := ⟨key.toList, long.toList, none, false⟩

def commonRules : List OptionRule :=
  [⟨"config".toList, "--config".toList, none, true⟩, flag "strict" "--strict",
    flag "verbose" "--verbose", flag "no_color" "--no-color"]

def renderRules : List OptionRule :=
  [flag "raw" "--raw", ⟨"no_newline".toList, "--no-newline".toList, some 'n', false⟩]

def parseRules : List OptionRule := [flag "json" "--json"]

inductive Command where
  | render
  | parse
  deriving DecidableEq, Repr

def Command.ofName? (name : Text) : Option Command :=
  if name == "render".toList then some render
  else if name == "parse".toList then some parse
  else none

/-- The common options, the command, and the words for the command. -/
structure Invocation where
  common : Words
  command : Command
  words : List Text

/-- Sort out the words up to the command. -/
def invocation? (arguments : List Text) : Option Invocation :=
  (sort commonRules false arguments).bind fun common =>
    match common.operands with
    | [] => none
    | name :: words => (Command.ofName? name).map fun command => ⟨common, command, words⟩

/-! ## The configuration of a run -/

/-- The file that holds the configuration, if one is named.  An option that is empty counts as one
that was not given, and so does an empty variable. -/
def configFile? (common : Words) (environment : Environment) : Option Text :=
  let named := fun (path : Option Text) => path.filter fun path => !path.isEmpty
  (named (common.value? "config".toList)).or (named (environment.lookup Config.fileVariable))

/-- The configuration of a run: that of the file, or else the default one, with the common flags
applied. -/
def selectConfig (common : Words) (environment : Environment)
    (readFile : Text → Option (List UInt8)) : Except LoadFailure Config :=
  let base : Except LoadFailure Config :=
    match configFile? common environment with
    | none => .ok (Config.fresh environment)
    | some path => Config.load (readFile path) environment
  base.map fun config =>
    let config :=
      if common.hasFlag "strict".toList then { config with parsing := ⟨true⟩ } else config
    if common.hasFlag "no_color".toList then
      { config with command := { config.command with noColor := true } }
    else config

def loadOutcome (path : Text) : LoadFailure → Outcome
  | .missingFile => Outcome.explained ("Config file not found at ".toList ++ path)
  | .invalid error => Outcome.explained ("Config parsing failed: ".toList ++ error.message)
  | .numeralTooLong => Outcome.broken [] .numeralTooLong []

/-! ## The two commands -/

/-- Format arguments and print the result. -/
def runRender (host : Host) (config : Config) (environment : Environment) (words : Words) : Outcome :=
  match words.operands with
  | [] => Outcome.usage
  | format :: texts =>
    let coerced := config.command.coerceArguments && !words.hasFlag "raw".toList
    match Coercion.arguments coerced texts with
    | .error fault => Outcome.broken [] fault []
    | .ok scalars =>
      let values := scalars.map fun scalar => Value.scalar scalar.type scalar
      let settings : Settings := ⟨config.parsing.strict, config.render.measure.name⟩
      let (opened, workspace) :=
        (Workspace.openSession format values (some settings) none none).run.run
          (Workspace.initial host environment)
      match opened with
      | .error (.malformedFormat malformation) => Outcome.explained malformation.message
      | .error (.unsupportedType type) =>
        Outcome.explained (unsupportedMessage host.typeName type)
      | .error fault => Outcome.broken [] fault workspace.notices
      | .ok opened =>
        let rendering := opened.session.render workspace.heap.occupancy
        let shown := Terminal.shownAll host.cells rendering.chunks
        let notices := workspace.notices ++ rendering.notices
        match rendering.fault with
        | some fault => Outcome.broken shown fault notices
        | none =>
          let ending := if words.hasFlag "no_newline".toList then [] else ['\n']
          Outcome.done (shown ++ Terminal.shown host.cells ending) notices

def tableTitle : Text := "Replacement items".toList

def tableHeader : List Text := ['#'] :: Description.columns

/-- Show how a format string is split. -/
def runParse (host : Host) (config : Config) (words : Words) : Outcome :=
  match words.operands with
  | [format] =>
    let reading := Format.parse (Mode.ofStrict config.parsing.strict) format
    match reading.result with
    | .error malformation => Outcome.explained malformation.message
    | .ok items =>
      let descriptions := Description.ofItems items
      if words.hasFlag "json".toList then
        Outcome.done (Json.array descriptions ++ ['\n']) reading.notices
      else
        Outcome.done (Table.draw host.cells tableTitle tableHeader (descriptions.map Description.row))
          reading.notices
  | _ => Outcome.usage

/-- Run a command with its configuration. -/
def runCommand (host : Host) (config : Config) (environment : Environment) (command : Command)
    (words : List Text) : Outcome :=
  match command with
  | .render =>
    match sort renderRules true words with
    | none => Outcome.usage
    | some words => runRender host config environment words
  | .parse =>
    match sort parseRules true words with
    | none => Outcome.usage
    | some words => runParse host config words

/-- Run the command line. -/
def run (host : Host) (arguments : List Text) (environment : Environment)
    (readFile : Text → Option (List UInt8)) : Outcome :=
  match invocation? arguments with
  | none => Outcome.usage
  | some invocation =>
    match selectConfig invocation.common environment readFile with
    | .error failure =>
      loadOutcome ((configFile? invocation.common environment).getD []) failure
    | .ok config => runCommand host config environment invocation.command invocation.words

def isVerbose (arguments : List Text) : Bool :=
  match invocation? arguments with
  | none => false
  | some invocation => invocation.common.hasFlag "verbose".toList

end CommandLine
end FieldText
