import FieldText.Text.Numeral

/-!
Quoted text, as diagnostics and tables show it: a pair of quotes around the characters, with a
backslash escape for the quote in use, for the backslash, and for every character that would not be
visible.  A text with single quotes in it and no double quotes is put in double quotes, every other
text in single quotes.
-/

namespace FieldText
namespace Quoted

/-- The characters that are shown by their code: controls, separators other than the space, format
controls, private use and the two codes that are no characters. -/
def isInvisible (c : Char) : Bool :=
  let code := c.toNat
  code ≤ 0x1F || (0x7F ≤ code && code ≤ 0xA0) || code == 0xAD || code == 0x1680 ||
    (0x0600 ≤ code && code ≤ 0x0605) || code == 0x061C || code == 0x06DD || code == 0x070F ||
    code == 0x180E || (0x2000 ≤ code && code ≤ 0x200F) || (0x2028 ≤ code && code ≤ 0x202F) ||
    (0x205F ≤ code && code ≤ 0x206F) || code == 0x3000 || (0xE000 ≤ code && code ≤ 0xF8FF) ||
    code == 0xFEFF || (0xFFF0 ≤ code && code ≤ 0xFFFB) || code == 0xFFFE || code == 0xFFFF ||
    0xE0000 ≤ code && code ≤ 0xE00FF || 0xF0000 ≤ code

/-- A code written with a letter that tells its width, in the shortest of three widths. -/
def codeEscape (c : Char) : Text :=
  let digits := Numeral.hexadecimal c.toNat
  if c.toNat < 0x100 then '\\' :: 'x' :: Text.padLeft 2 '0' digits
  else if c.toNat < 0x10000 then '\\' :: 'u' :: Text.padLeft 4 '0' digits
  else '\\' :: 'U' :: Text.padLeft 8 '0' digits

/-- How one character is written between the given quotes. -/
def character (quote c : Char) : Text :=
  if c = quote || c = '\\' then ['\\', c]
  else if c = '\n' then ['\\', 'n']
  else if c = '\r' then ['\\', 'r']
  else if c = '\t' then ['\\', 't']
  else if isInvisible c then codeEscape c
  else [c]

def singleQuote : Char := '\x27'

def doubleQuote : Char := '\x22'

def quoteFor (text : Text) : Char :=
  if text.contains singleQuote && !text.contains doubleQuote then doubleQuote else singleQuote

def write (text : Text) : Text :=
  let quote := quoteFor text
  quote :: text.flatMap (character quote) ++ [quote]

end Quoted
end FieldText
