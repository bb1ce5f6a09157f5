import EditorGutter.Gutter.Columns
import EditorGutter.Gutter.Output
import EditorGutter.Text.Width

/-!
Frames: the gutter of all visible lines.

Rendering binds every column in order, so the first column that cannot be bound decides the fault,
and then draws a row for every visible line.  The columns of all rows share one output, which is
cleared before each of them is called.  Each cell is what was written, fitted to its column, and
its style is laid over that of the gutter; the style of a row is that of the first cell that has
one.
-/
namespace EditorGutter

open Text

/-- One cell of a row, exactly as wide as its column. -/
structure Cell where
  column : Text
  text : Text
  style : Style
  deriving DecidableEq, Repr

/-- The row of a visible line. -/
structure Row where
  line : Number
  /-- Whether a cursor stands on the line. -/
  selected : Bool
  cells : List Cell
  text : Text
  /-- The style of the first cell that has one of its own, or that of the gutter. -/
  style : Style
  deriving DecidableEq, Repr

/-- The gutter of all visible lines. -/
structure Frame where
  width : Number
  rows : List Row
  deriving DecidableEq, Repr

/-! ### Rendering -/

/-- A column with its bound gutter. -/
structure BoundColumn where
  column : Column
  draw : LineRenderer

/-- Binds columns from left to right. -/
def bindColumns (scene : Scene) : List Column → Except Fault (List BoundColumn)
  | [] => .ok []
  | c :: rest => do
    let draw ← c.gutter.bind scene c.width
    let bound ← bindColumns scene rest
    return ⟨c, draw⟩ :: bound

/-- A style laid over that of the gutter, or that of the gutter. -/
def overBase (base : Style) : Option Style → Style
  | some style => base.patch style
  | none => base

/-- A row as far as it is drawn: the output that the columns share, the first style that one of
them returned, and the cells. -/
structure RowDraft where
  out : Output
  style : Option Style := none
  cells : List Cell := []

/-- The draft with the cell of one more column, whose gutter is called with a cleared output. -/
def RowDraft.draw (base : Style) (line : Number) (selected : Bool) (d : RowDraft)
    (b : BoundColumn) : RowDraft :=
  let (style, out) := b.draw.call line selected d.out.clear
  { out := out
    style := d.style <|> style
    cells := d.cells ++ [{
      column := b.column.name
      text := fit b.column.width out.text
      style := overBase base style }] }

/-- The row of a line, and the output after it. -/
def writeRow (base : Style) (cursorLines : List Nat) (bound : List BoundColumn) (line : Number)
    (out : Output) : Row × Output :=
  let selected := cursorLines.any fun (l : Nat) => line = (l : Number)
  let d := bound.foldl (RowDraft.draw base line selected) { out := out }
  ({ line := line
     selected := selected
     cells := d.cells
     text := d.cells.flatMap Cell.text
     style := overBase base d.style }, d.out)

/-- The rows of some lines, one after the other. -/
def writeRows (base : Style) (cursorLines : List Nat) (bound : List BoundColumn) :
    List Number → Output → List Row
  | [], _ => []
  | line :: rest, out =>
    let (row, out) := writeRow base cursorLines bound line out
    row :: writeRows base cursorLines bound rest out

namespace Scene

/-- The style of the gutter where nothing else is drawn. -/
def baseStyle (scene : Scene) : Style :=
  (scene.theme.style? Scope.gutter.text).getD Style.empty

/-- The lines that hold a cursor of the view. -/
def cursorLines (scene : Scene) : List Nat :=
  (scene.doc.selection scene.view.id).cursorLines scene.doc.buffer

/-- The lines on screen. -/
def visibleLines (scene : Scene) : List Number := scene.view.visibleLines scene.doc.buffer

end Scene

namespace Columns

/-- The gutter of every visible line, or the fault of the first column that cannot be bound. -/
def render (cs : Columns) (scene : Scene) : Except Fault Frame := do
  let bound ← bindColumns scene cs.columns
  return {
    width := cs.totalWidth
    rows := writeRows scene.baseStyle scene.cursorLines bound scene.visibleLines {} }

/-- What is reported about a frame once its columns are bound. -/
def renderRecords (cs : Columns) (scene : Scene) : List Log.Record :=
  match bindColumns scene cs.columns with
  | .ok _ =>
    [Log.record (ofString "gutter") .debug
      [.text (ofString "bound " ++ ofNat cs.columns.length
        ++ ofString " gutter column(s) for view " ++ scene.view.id.toText)]]
  | .error _ => []

end Columns

end EditorGutter
