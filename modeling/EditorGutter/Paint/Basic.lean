import EditorGutter.Gutter.Frame
import EditorGutter.Paint.Palette

/-!
Painting frames for a terminal.

A style becomes a pen: the stroke of its foreground, that of its background, and one for each
modifier that it turns on and that terminals paint.  Blinking is not painted.
-/
namespace EditorGutter

open Text

/-- The codes that turn a modifier on and off, for the modifiers that are painted. -/
def Modifier.codes? : Modifier → Option (Nat × Nat)
  | .bold => some (1, 22)
  | .dim => some (2, 22)
  | .italic => some (3, 23)
  | .underlined => some (4, 24)
  | .slowBlink => none
  | .rapidBlink => none
  | .reversed => some (7, 27)
  | .hidden => some (8, 28)
  | .crossedOut => some (9, 29)

/-- The stroke of a modifier that a style turns on. -/
def Style.modifierStroke? (s : Style) (m : Modifier) : Option Stroke :=
  if s.hasModifier m.mask then m.codes?.map fun c => .of (ofNat c.1) c.2 else none

/-- The pen of a style: foreground, background, then modifiers. -/
def Style.pen (depth : ColorDepth) (s : Style) : Pen :=
  (s.fg.bind (Color.stroke? depth .foreground)).toList
    ++ (s.bg.bind (Color.stroke? depth .background)).toList
    ++ Modifier.all.filterMap s.modifierStroke?

/-- A text painted in a style. -/
def Style.paint (depth : ColorDepth) (s : Style) (t : Text) : Text := (s.pen depth).paint depth t

/-- A painted cell. -/
def Cell.paint (depth : ColorDepth) (c : Cell) : Text := c.style.paint depth c.text

/-- The painted cells of a row, one after the other. -/
def Row.paint (depth : ColorDepth) (r : Row) : Text := r.cells.flatMap (Cell.paint depth)

/-- The painted rows of a frame. -/
def Frame.paint (depth : ColorDepth) (f : Frame) : List Text := f.rows.map (Row.paint depth)

end EditorGutter
