import FieldText.Toml.Scalar

/-!
TOML documents.  A document is a sequence of lines: table headers, and keys with their values.  Apart
from the table built so far, reading a document keeps track of three kinds of paths: those that were
declared and cannot be declared again, those whose values were written in full and cannot be added
to, and those that will count as declared from the next header on.
-/

namespace FieldText
namespace Toml

/-! ## Values with parts -/

/-- Whether one path is another one or leads to it. -/
def leadsTo (front path : Path) : Bool := front.isPrefixOf path

/-- Whether a value is written with brackets and is therefore complete. -/
def isComplete : Value → Bool
  | .array _ => true
  | .table _ => true
  | _ => false

/-- Add the value of a path to a table that is written in one line. -/
def addInline (complete : List Path) (path : Path) (value : Value) (table : Table) :
    Except Failure Table :=
  if complete.any fun front => leadsTo front path then malformed
  else
    match path.getLast? with
    | none => malformed
    | some key =>
      match Table.changeAt? false (Table.add? key value) path.dropLast table with
      | some table => .ok table
      | none => malformed

mutual

/-- Read a value, with room for a number of steps. -/
def readValueWithin : Nat → Text → Except Failure (Value × Text)
  | 0, _ => malformed
  | room + 1, text =>
    match text with
    | '[' :: rest => do
      let rest ← skipLines false rest
      let (elements, rest) ← readElementsWithin room rest
      pure (.array elements, rest)
    | '\x7b' :: rest =>
      match skipBlanks rest with
      | '\x7d' :: rest => .ok (.table [], rest)
      | rest => do
        let (table, rest) ← readInlineWithin room [] [] rest
        pure (.table table, rest)
    | _ =>
      if Text.startsWith (tripled basicQuote) text then
        (readBasicLines (text.drop 3)).map fun parts => (.text parts.1, parts.2)
      else if Text.startsWith [basicQuote] text then
        (readBasic false (text.drop 1)).map fun parts => (.text parts.1, parts.2)
      else if Text.startsWith (tripled literalQuote) text then
        (readLiteralLines (text.drop 3)).map fun parts => (.text parts.1, parts.2)
      else if Text.startsWith [literalQuote] text then
        (readLiteral (text.drop 1)).map fun parts => (.text parts.1, parts.2)
      else if Text.startsWith "true".toList text then .ok (.boolean true, text.drop 4)
      else if Text.startsWith "false".toList text then .ok (.boolean false, text.drop 5)
      else
        match readMoment? text with
        | some outcome => outcome
        | none =>
          match readMarked? text with
          | some outcome => .ok outcome
          | none =>
            match readDecimal? text with
            | some outcome => outcome
            | none =>
              match readSpecial? text with
              | some outcome => .ok outcome
              | none => malformed

/-- Read the elements of an array and its closing bracket. -/
def readElementsWithin : Nat → Text → Except Failure (List Value × Text)
  | 0, _ => malformed
  | room + 1, text =>
    match text with
    | ']' :: rest => .ok ([], rest)
    | _ => do
      let (value, rest) ← readValueWithin room text
      let rest ← skipLines false rest
      match rest with
      | ']' :: rest => pure ([value], rest)
      | ',' :: rest =>
        let rest ← skipLines false rest
        let (values, rest) ← readElementsWithin room rest
        pure (value :: values, rest)
      | _ => malformed

/-- Read the entries of a table that is written in one line, and its closing brace. -/
def readInlineWithin : Nat → List Path → Table → Text → Except Failure (Table × Text)
  | 0, _, _, _ => malformed
  | room + 1, complete, table, text => do
    let (path, rest) ← readPath text
    let rest ←
      match rest with
      | '=' :: rest => .ok (skipBlanks rest)
      | _ => malformed
    let (value, rest) ← readValueWithin room rest
    let table ← addInline complete path value table
    match skipBlanks rest with
    | '\x7d' :: rest => pure (table, rest)
    | ',' :: rest =>
      let complete := if isComplete value then path :: complete else complete
      readInlineWithin room complete table (skipBlanks rest)
    | _ => malformed

end

/-- Read a value.  Every character gives room for two steps, one into a value and one to the next. -/
def readValue (text : Text) : Except Failure (Value × Text) := readValueWithin (2 * text.length + 2) text

/-! ## Lines -/

/-- A document that is being read. -/
structure Document where
  table : Table
  declared : List Path
  complete : List Path
  pending : List Path
  header : Path

namespace Document

def empty : Document := ⟨[], [], [], [], []⟩

def isClosed (document : Document) (path : Path) : Bool :=
  document.complete.any fun front => leadsTo front path

/-- Let the pending paths count as declared. -/
def settle (document : Document) : Document :=
  { document with declared := document.pending ++ document.declared, pending := [] }

/-- Begin the table of a header. -/
def beginTable (document : Document) (path : Path) : Except Failure Document :=
  if document.declared.contains path || document.isClosed path then malformed
  else
    match Table.changeAt? true some path document.table with
    | none => malformed
    | some table =>
      .ok { document with table := table, declared := path :: document.declared, header := path }

/-- Begin the next table of an array of tables.  What was declared in the table before it does not
count in the new one. -/
def beginElement (document : Document) (path : Path) : Except Failure Document :=
  if document.isClosed path then malformed
  else
    let isOutside := fun other => !leadsTo path other
    match path.getLast? with
    | none => malformed
    | some key =>
      match Table.changeAt? true (Table.appendTable? key) path.dropLast document.table with
      | none => malformed
      | some table =>
        .ok
          { document with
            table := table
            declared := path :: document.declared.filter isOutside
            complete := document.complete.filter isOutside
            header := path }

/-- The paths of the tables that a key with dots goes through, below the current header. -/
def passed (header path : Path) : List Path :=
  (List.range path.length).filterMap fun length =>
    if length = 0 then none else some (header ++ path.take length)

/-- Add a key with its value to the table of the current header. -/
def add (document : Document) (path : Path) (value : Value) : Except Failure Document :=
  let through := passed document.header path
  let parent := document.header ++ path.dropLast
  if through.any document.declared.contains || document.isClosed parent then malformed
  else
    match path.getLast? with
    | none => malformed
    | some key =>
      match Table.changeAt? true (Table.add? key value) parent document.table with
      | none => malformed
      | some table =>
        .ok
          { document with
            table := table
            complete :=
              if isComplete value then (document.header ++ path) :: document.complete
              else document.complete
            pending := through ++ document.pending }

/-- Read the statement at the front of a line that is neither blank nor a comment. -/
def readStatement (document : Document) (text : Text) : Except Failure (Document × Text) :=
  match text with
  | '[' :: '[' :: rest => do
    let (path, rest) ← readPath (skipBlanks rest)
    let document ← document.settle.beginElement path
    match rest with
    | ']' :: ']' :: rest => pure (document, rest)
    | _ => malformed
  | '[' :: rest => do
    let (path, rest) ← readPath (skipBlanks rest)
    let document ← document.settle.beginTable path
    match rest with
    | ']' :: rest => pure (document, rest)
    | _ => malformed
  | '#' :: _ => .ok (document, text)
  | c :: _ =>
    if beginsKey c then do
      let (path, rest) ← readPath text
      let rest ←
        match rest with
        | '=' :: rest => .ok (skipBlanks rest)
        | _ => malformed
      let (value, rest) ← readValue rest
      let document ← document.add path value
      pure (document, rest)
    else malformed
  | [] => .ok (document, [])

/-- Read lines, with room for a number of them. -/
def readLinesWithin : Nat → Document → Text → Except Failure Document
  | 0, _, _ => malformed
  | room + 1, document, text =>
    match skipBlanks text with
    | [] => .ok document
    | '\n' :: rest => readLinesWithin room document rest
    | text => do
      let (document, rest) ← document.readStatement text
      let rest ← skipComment (skipBlanks rest)
      match rest with
      | [] => pure document
      | '\n' :: rest => readLinesWithin room document rest
      | _ => malformed

end Document

/-- Let every line end with a line feed alone. -/
def unifyLineEnds : Text → Text
  | '\r' :: '\n' :: rest => '\n' :: unifyLineEnds rest
  | c :: rest => c :: unifyLineEnds rest
  | [] => []

def read (text : Text) : Except Failure Table :=
  let text := unifyLineEnds text
  (Document.readLinesWithin (text.length + 1) Document.empty text).map Document.table

end Toml
end FieldText
