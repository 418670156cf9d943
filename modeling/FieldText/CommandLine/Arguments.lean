import FieldText.Text.Basic

/-!
The words of a command line.  A command knows some options, each a flag or an option with a value,
and all other words are its operands.  Options may stand between the operands, and a double dash ends
them.  What does not fit is a usage error.
-/

namespace FieldText
namespace CommandLine

/-- An option: its spellings and whether a value follows. -/
structure OptionRule where
  key : Text
  long : Text
  short : Option Char
  takesValue : Bool
  deriving DecidableEq, Repr

/-- The words of a command line, sorted out. -/
structure Words where
  flags : List Text
  values : List (Text × Text)
  operands : List Text
  deriving DecidableEq, Repr

namespace Words

def none : Words := ⟨[], [], []⟩

def withFlag (words : Words) (key : Text) : Words := { words with flags := key :: words.flags }

def withValue (words : Words) (key value : Text) : Words :=
  { words with values := (key, value) :: words.values }

def withOperand (words : Words) (operand : Text) : Words :=
  { words with operands := operand :: words.operands }

def hasFlag (words : Words) (key : Text) : Bool := words.flags.contains key

/-- The value of an option; the last one counts. -/
def value? (words : Words) (key : Text) : Option Text := words.values.reverse.lookup key

end Words

/-- Cut a long option at its equals sign, if it has one. -/
def cutValue (word : Text) : Text × Option Text :=
  match word.dropWhile (· ≠ '=') with
  | [] => (word, none)
  | _ :: value => (word.takeWhile (· ≠ '='), some value)

/-- The flags that a group of short options stands for. -/
def shortFlags? (rules : List OptionRule) (letters : Text) : Option (List Text) :=
  letters.mapM fun letter =>
    (rules.find? fun rule => rule.short = some letter && !rule.takesValue).map OptionRule.key

/-- Sort out the words of a command.  With `interspersed` the options may stand behind operands; a
command without it leaves the first operand and everything behind it as operands.  The answer is
`none` for a usage error. -/
def sort (rules : List OptionRule) (interspersed : Bool) : List Text → Option Words
  | [] => some Words.none
  | word :: rest =>
    match word with
    | ['-', '-'] => some { Words.none with operands := rest }
    | '-' :: '-' :: _ =>
      let (name, attached) := cutValue word
      match rules.find? fun rule => rule.long = name with
      | none => none
      | some rule =>
        if rule.takesValue then
          match attached with
          | some value => (sort rules interspersed rest).map fun words => words.withValue rule.key value
          | none =>
            match rest with
            | value :: rest =>
              (sort rules interspersed rest).map fun words => words.withValue rule.key value
            | [] => none
        else
          match attached with
          | some _ => none
          | none => (sort rules interspersed rest).map fun words => words.withFlag rule.key
    | '-' :: letter :: letters =>
      match shortFlags? rules (letter :: letters) with
      | none => none
      | some keys =>
        (sort rules interspersed rest).map fun words => keys.foldr (fun key w => w.withFlag key) words
    | operand =>
      if interspersed then (sort rules interspersed rest).map fun words => words.withOperand operand
      else some { Words.none with operands := operand :: rest }

end CommandLine
end FieldText
