import FieldText.Format.Item
import FieldText.RangeOptions
import FieldText.Repetition
import FieldText.Scalar.Rule

/-!
Renderers: values after every part of them has been given its way of being written.  A renderer
holds no reference to a registry, so what it writes depends on nothing but itself, the options, and
which containers hold anything: the truth of a container is not settled before it is written.
Sequences, adapters and sessions render the renderers inside them; a text is rendered aside whenever
it has to be measured or repeated, and straight into the sink otherwise.
-/

namespace FieldText

/-- A bound value. -/
inductive Renderer where
  /-- A value under the rule for a kind of scalars. -/
  | ruled (kind : ScalarKind) (subject : Subject)
  /-- A renderer that the library knows nothing about but its effect. -/
  | custom (effect : Occupancy → Text → Rendering)
  /-- A fixed text, whatever the options. -/
  | placeholder (text : Text)
  | sequence (elements : List Renderer)
  | aligned (item : Renderer) (alignment : Alignment) (amount : Int) (pad : Text) (measure : Measure)
  | padded (item : Renderer) (left right : Int)
  | repeated (item : Renderer) (count : Int)
  /-- The bare adapter around an item, which has no layout. -/
  | unlaid (item : Renderer)
  | session (items : List Item) (measure : Measure) (arguments : List Renderer)

namespace Renderer

/-- Write elements with a separator between neighbours. -/
def joinEffects (separator : Text) : List Rendering → Rendering
  | [] => Rendering.done
  | [last] => last
  | first :: next :: rest =>
    first.andThen ((Rendering.write separator).andThen (joinEffects separator (next :: rest)))

/-- Write one item of a format string, given the effects of the arguments.  A field without an
argument is echoed, and a field that could not be read leaves nothing. -/
def itemEffect (measure : Measure) (arguments : List (Text → Rendering)) : Item → Rendering
  | .literal text => Rendering.write text
  | .unreadable _ => Rendering.done
  | .field source field =>
    match arguments[field.index]? with
    | some effect =>
      Repetition.align field.layout.alignment field.layout.width [field.layout.pad] measure
        (effect field.options)
    | none =>
      (Rendering.note (.missingArgument field.index arguments.length source)).andThen
        (Rendering.write source)

mutual

/-- Render a bound value with options. -/
def render (occupancy : Occupancy) : Renderer → Text → Rendering
  | ruled kind subject, options => kind.render occupancy subject options
  | custom effect, options => effect occupancy options
  | placeholder text, _ => Rendering.write text
  | sequence elements, options =>
    let (parts, notices) := RangeOptions.read options
    (Rendering.noteAll notices).andThen
      (joinEffects parts.separator
        ((renderAll occupancy elements).map fun effect => effect parts.element))
  | aligned item alignment amount pad measure, options =>
    Repetition.align alignment amount pad measure (render occupancy item options)
  | padded item left right, options =>
    Repetition.surround left right (render occupancy item options)
  | repeated item count, options => Repetition.repeated count (render occupancy item options)
  | unlaid _, _ => Rendering.fail .abstractAdapter
  | session items measure arguments, _ =>
    Rendering.sequence (items.map (itemEffect measure (renderAll occupancy arguments)))

/-- The effects of renderers, each still waiting for its options. -/
def renderAll (occupancy : Occupancy) : List Renderer → List (Text → Rendering)
  | [] => []
  | first :: rest => (fun options => render occupancy first options) :: renderAll occupancy rest

end

theorem renderAll_eq_map (occupancy : Occupancy) (renderers : List Renderer) :
    renderAll occupancy renderers = renderers.map (render occupancy) := by
  induction renderers with
  | nil => rfl
  | cons first rest inductionHypothesis =>
      rw [renderAll, inductionHypothesis, List.map_cons]

end Renderer
end FieldText
