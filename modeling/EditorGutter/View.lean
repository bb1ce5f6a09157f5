import EditorGutter.Buffer
import EditorGutter.Fault

/-!
Views: which lines of a document are on screen.

A view scrolls by whole lines.  Its offset is the first visible line and its height the number of
text rows it shows.  Constructing, resizing and scrolling to a line refuse anything but counts;
`View.ensureLineVisible` scrolls to what it is asked for, so an offset is a number and not a
count.
-/
namespace EditorGutter

/-- A window onto the lines of a document. -/
structure View where
  id : Number
  offset : Number
  height : Nat
  height_pos : 0 < height

namespace View

/-- A height, which has to be a positive count. -/
def checkHeight (height : Number) : Except Fault { n : Nat // 0 < n } :=
  match height.toPositive? with
  | some n => .ok n
  | none => .error (.range (.viewHeight height))

/-- A first visible line, which has to be a count. -/
def checkOffset (offset : Number) : Except Fault Number :=
  match offset.toNat? with
  | some n => .ok n
  | none => .error (.range (.viewOffset offset))

/-- A view of the given geometry. -/
def create (height offset id : Number) : Except Fault View := do
  let ⟨h, h_pos⟩ ← checkHeight height
  let o ← checkOffset offset
  return ⟨id, o, h, h_pos⟩

/-- The view with another height. -/
def resize (v : View) (height : Number) : Except Fault View := do
  let ⟨h, h_pos⟩ ← checkHeight height
  return { v with height := h, height_pos := h_pos }

/-- The view with `line` as its first visible line. -/
def scrollTo (v : View) (line : Number) : Except Fault View := do
  let o ← checkOffset line
  return { v with offset := o }

/-- The view scrolled as little as needed to show `line`. -/
def ensureLineVisible (v : View) (line : Number) : View :=
  if line < v.offset then { v with offset := Number.max 0 line }
  else if v.offset + v.height ≤ line then { v with offset := line - v.height + 1 }
  else v

/-- The last line of the document that the view shows. -/
def lastLine (v : View) (b : Buffer) : Number :=
  (Number.min (v.offset.moveBy b.lineCount v.height) b.lineCount).moveBy b.lineCount (-1)

/-- The lines from `line` on, one after the other, up to `last`, and at most `fuel` of them. -/
def linesFrom (last : Number) : Nat → Number → List Number
  | 0, _ => []
  | fuel + 1, line =>
    if line ≤ last then line :: linesFrom last fuel (line.moveBy last 1) else []

/-- The lines of the document on screen, top to bottom; there are never more than the document
has. -/
def visibleLines (v : View) (b : Buffer) : List Number :=
  linesFrom (v.lastLine b) b.lineCount v.offset

/-! ### Identities -/

/-- The next identity to give to a view that brings none. -/
structure IdSupply where
  next : Nat
  deriving DecidableEq

/-- The supply from which nothing has been taken. -/
def IdSupply.fresh : IdSupply := ⟨1⟩

/-- The identity of a view and the supply that is left: the identity it brings, or the next one. -/
def IdSupply.assign (supply : IdSupply) : Option Number → Number × IdSupply
  | some id => (id, supply)
  | none => (supply.next, ⟨supply.next + 1⟩)

end View

end EditorGutter
