import FieldText.Report

/-!
The options of sequences, `$[separator]@[element options]`.  Either part may be left out, and each
value stands between a pair of brackets of one of three kinds, so it may hold everything but its own
closing bracket.
-/

namespace FieldText

/-- What the options of a sequence say: the text between elements and the options for each. -/
structure RangeOptions where
  separator : Text
  element : Text
  deriving DecidableEq, Repr

namespace RangeOptions

def closer? (c : Char) : Option Char :=
  if c = '[' then some ']' else if c = '<' then some '>' else if c = '(' then some ')' else none

def defaultSeparator : Text := [',', ' ']

/-- One part read off the front of an options text. -/
structure Part where
  value : Text
  rest : Text
  notices : List Notice
  deriving DecidableEq, Repr

/-- Read the value of a part, given what follows its indicator.  A value without brackets is left
standing; a value that is not closed takes all of the text with it. -/
def readValue (indicator : Char) (fallback body : Text) : Part :=
  match body with
  | [] => ⟨fallback, [], [.undelimitedRangeOption indicator]⟩
  | opener :: inside =>
    match closer? opener with
    | none => ⟨fallback, body, [.undelimitedRangeOption indicator]⟩
    | some closer =>
      match inside.dropWhile (· ≠ closer) with
      | [] => ⟨fallback, [], [.unclosedRangeOption indicator closer]⟩
      | _ :: rest => ⟨inside.takeWhile (· ≠ closer), rest, []⟩

/-- Read a part that begins with an indicator, or take the fallback when the indicator is not
there. -/
def readPart (indicator : Char) (fallback options : Text) : Part :=
  match options with
  | [] => ⟨fallback, [], []⟩
  | c :: body => if c = indicator then readValue indicator fallback body else ⟨fallback, options, []⟩

/-- Read the options of a sequence, and note what could not be understood. -/
def read (options : Text) : RangeOptions × List Notice :=
  let separator := readPart '$' defaultSeparator options
  let element := readPart '@' [] separator.rest
  let leftover :=
    if Text.isAllBlank element.rest then [] else [.unexpectedRangeOptions element.rest]
  (⟨separator.value, element.value⟩, separator.notices ++ element.notices ++ leftover)

end RangeOptions
end FieldText
