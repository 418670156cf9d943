import FieldText.Description

/-!
Descriptions as JSON, over several lines with an indentation of two spaces and in ASCII alone.  A
character outside the visible range of ASCII is written by its code, and one beyond the sixteen-bit
range by a pair of codes.
-/

namespace FieldText
namespace Json

/-- A sixteen-bit unit, by its code in four hexadecimal digits. -/
def unit (code : Nat) : Text := '\\' :: 'u' :: Text.padLeft 4 '0' (Numeral.hexadecimal code)

/-- How a character is written in a string. -/
def character (c : Char) : Text :=
  let code := c.toNat
  if code = 0x22 || code = 0x5C then ['\\', c]
  else if c = '\n' then ['\\', 'n']
  else if c = '\r' then ['\\', 'r']
  else if c = '\t' then ['\\', 't']
  else if code = 0x08 then ['\\', 'b']
  else if code = 0x0C then ['\\', 'f']
  else if 0x20 ≤ code && code ≤ 0x7E then [c]
  else if code < 0x10000 then unit code
  else unit (0xD800 + (code - 0x10000) / 0x400) ++ unit (0xDC00 + (code - 0x10000) % 0x400)

def string (text : Text) : Text := '\x22' :: text.flatMap character ++ ['\x22']

def detail : Description.Detail → Text
  | .number n => Numeral.decimal n
  | .word text => string text
  | .verbatim text => string text

/-- A list of lines in brackets, with a comma behind each but the last. -/
def block (opening closing : Char) (indentation : Nat) (entries : List Text) : Text :=
  if entries.isEmpty then [opening, closing]
  else
    let inner := List.replicate (indentation + 2) ' '
    [opening, '\n'] ++ Text.join [',', '\n'] (entries.map (inner ++ ·)) ++
      '\n' :: List.replicate indentation ' ' ++ [closing]

def object (indentation : Nat) (description : Description) : Text :=
  block '\x7b' '\x7d' indentation
    (description.map fun part => string part.1 ++ ": ".toList ++ detail part.2)

def array (descriptions : List Description) : Text :=
  block '[' ']' 0 (descriptions.map (object 2))

end Json
end FieldText
