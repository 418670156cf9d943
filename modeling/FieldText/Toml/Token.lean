import FieldText.Toml.Value
import FieldText.Text.Numeral

/-!
The smallest parts of a TOML document: blanks, comments, keys and the four kinds of strings.  Every
reader takes the text in front of it and gives back what it read and the text that is left.
-/

namespace FieldText
namespace Toml

def malformed {α : Type} : Except Failure α := .error .malformed

def isBlank (c : Char) : Bool := c = ' ' || c = '\t'

/-- Control characters, which are nowhere allowed but for tabs and the ends of lines. -/
def isControl (c : Char) : Bool := c.toNat < 0x20 || c.toNat == 0x7F

/-- Control characters that are not allowed within a line. -/
def isForbidden (c : Char) : Bool := isControl c && c != '\t'

/-- Control characters that are not allowed in a text of several lines. -/
def isForbiddenInLines (c : Char) : Bool := isForbidden c && c != '\n'

def skipBlanks (text : Text) : Text := text.dropWhile isBlank

/-- Skip a comment up to the end of its line, if one begins here. -/
def skipComment (text : Text) : Except Failure Text :=
  match text with
  | '#' :: rest =>
    if (rest.takeWhile (· ≠ '\n')).any isForbidden then malformed
    else .ok (rest.dropWhile (· ≠ '\n'))
  | _ => .ok text

/-- Skip blanks, line ends and comments; the flag tells whether a comment has begun. -/
def skipLines : Bool → Text → Except Failure Text
  | _, [] => .ok []
  | true, c :: rest =>
    if c = '\n' then skipLines false rest
    else if isForbidden c then malformed
    else skipLines true rest
  | false, c :: rest =>
    if isBlank c || c = '\n' then skipLines false rest
    else if c = '#' then skipLines true rest
    else .ok (c :: rest)

/-! ## Strings -/

def literalQuote : Char := '\x27'

def basicQuote : Char := '\x22'

def tripled (quote : Char) : Text := [quote, quote, quote]

/-- Cut a text at the first occurrence of another one, which is taken off. -/
def cutAt (mark : Text) : Text → Option (Text × Text)
  | [] => none
  | c :: rest =>
    if Text.startsWith mark (c :: rest) then some ([], (c :: rest).drop mark.length)
    else (cutAt mark rest).map fun parts => (c :: parts.1, parts.2)

def readLiteral (text : Text) : Except Failure (Text × Text) :=
  match cutAt [literalQuote] text with
  | none => malformed
  | some (content, rest) => if content.any isForbidden then malformed else .ok (content, rest)

def hexValue? (c : Char) : Option Nat :=
  if c.isDigit then some (c.toNat - '0'.toNat)
  else if 'a' ≤ c && c ≤ 'f' then some (c.toNat - 'a'.toNat + 10)
  else if 'A' ≤ c && c ≤ 'F' then some (c.toNat - 'A'.toNat + 10)
  else none

def hexNumber? (digits : Text) : Option Nat :=
  digits.foldlM (fun total c => (hexValue? c).map fun digit => 16 * total + digit) 0

/-- Read a character by its code in a fixed number of hexadecimal digits. -/
def readCode (length : Nat) (text : Text) : Except Failure (Text × Text) :=
  let digits := text.take length
  if digits.length < length then malformed
  else
    match hexNumber? digits with
    | none => malformed
    | some code =>
      if code < 0xD800 || (0xDFFF < code && code < 0x110000) then
        .ok ([Char.ofNat code], text.drop length)
      else malformed

/-- Skip the white space behind a backslash at the end of a line. -/
def skipContinuation (text : Text) : Except Failure Text :=
  match skipBlanks text with
  | [] => .ok []
  | c :: rest =>
    if c = '\n' then .ok (rest.dropWhile fun d => isBlank d || d = '\n') else malformed

/-- Read an escape, behind its backslash. -/
def readEscape (severalLines : Bool) (text : Text) : Except Failure (Text × Text) :=
  match text with
  | [] => malformed
  | c :: rest =>
    if severalLines && (isBlank c || c = '\n') then
      (skipContinuation text).map fun rest => ([], rest)
    else if c = 'u' then readCode 4 rest
    else if c = 'U' then readCode 8 rest
    else if c = 'b' then .ok (['\x08'], rest)
    else if c = 't' then .ok (['\t'], rest)
    else if c = 'n' then .ok (['\n'], rest)
    else if c = 'f' then .ok (['\x0c'], rest)
    else if c = 'r' then .ok (['\r'], rest)
    else if c = basicQuote || c = '\\' then .ok ([c], rest)
    else malformed

/-- Read a basic string behind its opening quotes, with room for a number of characters and escapes. -/
def readBasicWithin : Nat → Bool → Text → Except Failure (Text × Text)
  | 0, _, _ => malformed
  | _ + 1, _, [] => malformed
  | room + 1, severalLines, c :: rest =>
    if c = basicQuote && !severalLines then .ok ([], rest)
    else if c = basicQuote && Text.startsWith [basicQuote, basicQuote] rest then
      .ok ([], rest.drop 2)
    else if c = '\\' then do
      let (escaped, rest) ← readEscape severalLines rest
      let (content, rest) ← readBasicWithin room severalLines rest
      pure (escaped ++ content, rest)
    else if isForbidden c && !(severalLines && c = '\n') then malformed
    else do
      let (content, rest) ← readBasicWithin room severalLines rest
      pure (c :: content, rest)

def readBasic (severalLines : Bool) (text : Text) : Except Failure (Text × Text) :=
  readBasicWithin (text.length + 1) severalLines text

/-- Take up to two quotes that stand in front of the closing ones into the content. -/
def takeExtraQuotes (quote : Char) (content rest : Text) : Text × Text :=
  let extra := (rest.take 2).takeWhile (· = quote)
  (content ++ extra, rest.drop extra.length)

/-- Drop the end of the line that the opening quotes stand on. -/
def dropFirstLineEnd : Text → Text
  | '\n' :: rest => rest
  | rest => rest

/-- Read a literal string of several lines, behind its opening quotes. -/
def readLiteralLines (text : Text) : Except Failure (Text × Text) :=
  match cutAt (tripled literalQuote) (dropFirstLineEnd text) with
  | none => malformed
  | some (content, rest) =>
    if content.any isForbiddenInLines then malformed
    else .ok (takeExtraQuotes literalQuote content rest)

/-- Read a basic string of several lines, behind its opening quotes. -/
def readBasicLines (text : Text) : Except Failure (Text × Text) :=
  (readBasic true (dropFirstLineEnd text)).map fun parts =>
    takeExtraQuotes basicQuote parts.1 parts.2

/-! ## Keys -/

def isBareKey (c : Char) : Bool := c.isAlphanum || c = '-' || c = '_'

def beginsKey (c : Char) : Bool := isBareKey c || c = literalQuote || c = basicQuote

/-- Read one part of a key. -/
def readKeyPart (text : Text) : Except Failure (Text × Text) :=
  match text with
  | [] => malformed
  | c :: rest =>
    if isBareKey c then .ok (text.takeWhile isBareKey, text.dropWhile isBareKey)
    else if c = literalQuote then readLiteral rest
    else if c = basicQuote then readBasic false rest
    else malformed

/-- Read the parts of a key, with room for a number of them, and skip the blanks behind it. -/
def readPathWithin : Nat → Text → Except Failure (Path × Text)
  | 0, _ => malformed
  | room + 1, text => do
    let (part, rest) ← readKeyPart text
    match skipBlanks rest with
    | '.' :: rest =>
      let (parts, rest) ← readPathWithin room (skipBlanks rest)
      pure (part :: parts, rest)
    | rest => pure ([part], rest)

/-- Read a key, which may have several parts, and skip the blanks behind it. -/
def readPath (text : Text) : Except Failure (Path × Text) := readPathWithin (text.length + 1) text

end Toml
end FieldText
