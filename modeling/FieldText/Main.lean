import FieldText.CommandLine.Run

/-!
The program: hand the words of the command line, the environment and the configuration file to
`CommandLine.run`, and write what it yields.  How many cells a character takes is read from a table, which
is a file that a variable names.
-/

namespace FieldText

/-- The words for types in notices. -/
def typeWord : ArgumentType → Text
  | .object => "object".toList
  | .absent => "nothing".toList
  | .text => "text".toList
  | .boolean => "boolean".toList
  | .integer => "integer".toList
  | .float => "float".toList
  | .list => "list".toList
  | .tuple => "tuple".toList
  | .range => "range".toList
  | .complex => "complex".toList
  | .dictionary => "dictionary".toList
  | .set => "set".toList
  | .bytes => "bytes".toList
  | .ellipsis => "ellipsis".toList
  | .adapter => "adapter".toList
  | .session => "session".toList
  | .wrapper => "wrapper".toList
  | .declared _ name => name

/-- The full names of types in errors. -/
def typeName : ArgumentType → Text
  | .declared _ name => name
  | type => "builtins.".toList ++ typeWord type

/-- The variable that names the table of widths. -/
def widthsVariable : String := "FORMATV_CELL_WIDTHS"

/-- Read a line of the table: the first and the last code of a range, and the columns of its characters. -/
def readRange? (line : String) : Option (Nat × Nat × Nat) :=
  match (line.trimAscii.toString.splitOn " ").map String.toNat? with
  | [some first, some last, some columns] => some (first, last, columns)
  | _ => none

/-- The measure by cells, from a table if there is one. -/
def readCells : IO Measure := do
  match ← IO.getEnv widthsVariable with
  | none => pure Measure.chars
  | some path =>
    try
      let lines ← IO.FS.lines path
      pure (Measure.ofRanges (lines.toList.filterMap readRange?))
    catch _ => pure Measure.chars

/-- The variables that the program looks at. -/
def readEnvironment : IO Environment := do
  let mut environment : Environment := []
  for name in [Config.strictVariable, Config.fileVariable] do
    if let some value ← IO.getEnv (String.ofList name) then
      environment := (name, value.toList) :: environment
  pure environment

/-- The bytes of a file, if it can be read. -/
def readBytes (path : String) : IO (Option (List UInt8)) := do
  try
    let bytes ← IO.FS.readBinFile path
    pure (some bytes.toList)
  catch _ => pure none

end FieldText

open FieldText

/-- Run the program. -/
def main (words : List String) : IO UInt32 := do
  let arguments := words.map String.toList
  let environment ← readEnvironment
  let path := (CommandLine.invocation? arguments).bind fun invocation =>
    CommandLine.configFile? invocation.common environment
  let content ←
    match path with
    | some path => readBytes (String.ofList path)
    | none => pure none
  -- No built-in provider has anything prepared, so none is ever under way inside another.
  let host : Host := ⟨← readCells, 0, typeName⟩
  let outcome := CommandLine.run host arguments environment fun _ => content
  IO.print (String.ofList outcome.output)
  if CommandLine.isVerbose arguments then
    for notice in outcome.notices do
      IO.eprintln (String.ofList (notice.message typeWord))
  IO.eprint (String.ofList outcome.errors)
  if outcome.isUsage then IO.eprintln "Usage: [OPTIONS] render|parse FORMAT [ARGS]..."
  if outcome.fault.isSome then IO.eprintln "Error: the output could not be completed"
  pure outcome.exitCode.toUInt32
