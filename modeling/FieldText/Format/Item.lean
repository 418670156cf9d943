import FieldText.Layout

/-!
The items that a format string is split into: literal text, replacement fields, and fields whose
index cannot be read.  Items also have a written form, which is a format string again: the braces
of literal text are doubled and the layout of a field is given in full.
-/

namespace FieldText

/-- What a replacement field asks for: an argument by its index, a layout, and the options that are
handed to the argument's renderer as they stand. -/
structure Field where
  index : Nat
  layout : Layout
  options : Text
  deriving DecidableEq, Repr

/-- The written form of a field, braces included and with its layout given in full. -/
def Field.write (field : Field) : Text :=
  '{' :: Numeral.decimal field.index ++ ',' :: field.layout.write ++ ':' :: field.options ++ ['}']

/-- One item of a format string.  A field keeps the text that it was read from, which is echoed when
the argument is missing. -/
inductive Item where
  | literal (text : Text)
  | field (source : Text) (field : Field)
  | unreadable (source : Text)
  deriving DecidableEq, Repr

namespace Item

def kindName : Item → Text
  | literal _ => "literal".toList
  | field _ _ => "format".toList
  | unreadable _ => "empty".toList

/-- The text of a literal, and the text that any other item was read from. -/
def source : Item → Text
  | literal text => text
  | field source _ => source
  | unreadable source => source

/-- The text of a literal with every brace doubled, so that none of them begins or ends a field. -/
def escape (text : Text) : Text :=
  text.flatMap fun c => if c = '{' || c = '}' then [c, c] else [c]

/-- The written form of an item.  A field whose index cannot be read has no other form than its
source. -/
def write : Item → Text
  | literal text => escape text
  | field _ asked => asked.write
  | unreadable source => source

def writeAll (items : List Item) : Text := items.flatMap write

def isLiteral : Item → Bool
  | literal _ => true
  | _ => false

/-- Put neighbouring literals together and drop empty ones. -/
def merge : List Item → List Item
  | [] => []
  | literal text :: rest =>
    if text.isEmpty then merge rest
    else
      match merge rest with
      | literal next :: others => literal (text ++ next) :: others
      | others => literal text :: others
  | item :: rest => item :: merge rest

end Item
end FieldText
