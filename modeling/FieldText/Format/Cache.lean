import FieldText.Format.Parsing

/-!
The memory of parsed format strings.  It keeps the results of the most recently used keys, up to a
fixed number, and never the failure of a parse.  A result that is found again is the same object as
before and leaves no notices.
-/

namespace FieldText

/-- Parsed items together with the serial number of the parse that they came from. -/
structure ParsedItems where
  serial : Nat
  items : List Item
  deriving DecidableEq, Repr

namespace ParsedItems

/-- Whether two sessions hold one and the same result.  All empty results are the same. -/
def isSame (first second : ParsedItems) : Bool :=
  first.serial = second.serial || (first.items.isEmpty && second.items.isEmpty)

end ParsedItems

namespace Format

/-- What a parse depends on. -/
abbrev Key := Mode × Text

/-- The remembered results, the most recently used first, and the next unused serial number. -/
structure Cache where
  entries : List (Key × ParsedItems)
  nextSerial : Nat
  deriving DecidableEq, Repr

namespace Cache

def capacity : Nat := 256

def empty : Cache := ⟨[], 0⟩

def find? (cache : Cache) (key : Key) : Option ParsedItems := cache.entries.lookup key

def others (cache : Cache) (key : Key) : List (Key × ParsedItems) :=
  cache.entries.filter fun entry => !(entry.1 == key)

/-- Make a result the most recently used one, and forget what exceeds the capacity. -/
def use (cache : Cache) (key : Key) (parsed : ParsedItems) : List (Key × ParsedItems) :=
  ((key, parsed) :: cache.others key).take capacity

/-- Parse a format string, or find the result of an earlier parse. -/
def parse (cache : Cache) (mode : Mode) (format : Text) : Reading ParsedItems × Cache :=
  match cache.find? (mode, format) with
  | some parsed => (Reading.pure parsed, { cache with entries := cache.use (mode, format) parsed })
  | none =>
    let reading := (Format.parse mode format).map fun items => ParsedItems.mk cache.nextSerial items
    match reading.result with
    | .error _ => (reading, cache)
    | .ok parsed => (reading, ⟨cache.use (mode, format) parsed, cache.nextSerial + 1⟩)

end Cache
end Format
end FieldText
