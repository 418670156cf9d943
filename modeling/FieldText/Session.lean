import FieldText.Buffer
import FieldText.Format.Cache
import FieldText.Renderer

/-!
Sessions: a parsed format string together with bound arguments.  A session renders the same way every
time, as long as no container that it writes as a boolean becomes empty or ceases to be empty.
-/

namespace FieldText

/-- A format string that was parsed once, and its bound arguments. -/
structure Session where
  format : Text
  parsed : ParsedItems
  measure : Measure
  arguments : List Renderer

namespace Session

/-- The session as a renderer, for its use as an argument. -/
def renderer (session : Session) : Renderer :=
  .session session.parsed.items session.measure session.arguments

/-- Render the session into a sink. -/
def render (occupancy : Occupancy) (session : Session) : Rendering :=
  session.renderer.render occupancy []

def text? (occupancy : Occupancy) (session : Session) : Except Fault Text :=
  let rendering := session.render occupancy
  match rendering.fault with
  | some fault => .error fault
  | none => .ok rendering.text

/-- Render into a new buffer. -/
def toBuffer (occupancy : Occupancy) (session : Session) (capacity : Int) : Except Fault Buffer :=
  (Buffer.create? capacity).bind fun buffer =>
    let rendering := session.render occupancy
    match rendering.fault with
    | some fault => .error fault
    | none => .ok (buffer.writeAll rendering.chunks).2

/-- A short description: the format string and the number of arguments. -/
def summary (session : Session) : Text :=
  '(' :: Quoted.write session.format ++ ", <".toList ++
    Numeral.decimal session.arguments.length ++ " argument(s)>)".toList

end Session
end FieldText
