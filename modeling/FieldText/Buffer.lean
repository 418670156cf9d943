import FieldText.Rendering

/-!
Bounded buffers.  A buffer keeps the front of everything that is written to it, up to its capacity,
and remembers whether anything was cut off.  What it keeps are the chunks as they were written, and it
counts their characters as they come in.
-/

namespace FieldText

/-- The front of a text up to a limit.  A limit below zero counts from the end. -/
def Text.upTo (limit : Int) (text : Text) : Text :=
  if limit < 0 then text.take (text.length - limit.natAbs) else text.take limit.toNat

/-- A buffer that holds at most `capacity` characters. -/
structure Buffer where
  capacity : Nat
  /-- What was kept of each write, without the writes of which nothing was kept. -/
  chunks : List Text
  /-- The number of characters that were kept so far. -/
  size : Nat
  truncated : Bool
  deriving DecidableEq, Repr

namespace Buffer

def create (capacity : Nat) : Buffer := ⟨capacity, [], 0, false⟩

/-- An empty buffer of a capacity that may turn out to be negative. -/
def create? (capacity : Int) : Except Fault Buffer :=
  if capacity < 0 then .error .negativeCapacity else .ok (create capacity.toNat)

def content (buffer : Buffer) : Text := buffer.chunks.flatten

/-- The number of characters that still fit. -/
def room (buffer : Buffer) : Int := buffer.capacity - buffer.size

def keep (buffer : Buffer) (text : Text) : Buffer :=
  if text.isEmpty then buffer
  else { buffer with chunks := buffer.chunks ++ [text], size := buffer.size + text.length }

/-- Write a text; what does not fit is dropped.  The number is that of the characters that were kept. -/
def write (buffer : Buffer) (text : Text) : Nat × Buffer :=
  if buffer.room < text.length then
    let front := text.upTo buffer.room
    (front.length, { buffer with truncated := true }.keep front)
  else (text.length, buffer.keep text)

/-- Write texts one after the other. -/
def writeAll : List Text → Buffer → List Nat × Buffer
  | [], buffer => ([], buffer)
  | text :: rest, buffer =>
    let (count, buffer) := buffer.write text
    let (counts, buffer) := writeAll rest buffer
    (count :: counts, buffer)

end Buffer
end FieldText
