import EditorGutter.Color
import EditorGutter.Number.Order
import EditorGutter.Number.Word
import EditorGutter.Paint.Pen

/-!
The codes of colors at each depth.

A terminal with fewer colors shows a near one: a color of red, green and blue becomes an entry of
the 256-color palette, a gray one an entry of its gray ramp and any other an entry of its cube, and
such an entry becomes one of the sixteen colors by its brightest channel.
-/
namespace EditorGutter

open Text

namespace ColorName

/-- The code of a named color as a foreground; `reset` has none. -/
def code? : ColorName → Option Nat
  | .reset => none
  | .black => some 30
  | .red => some 31
  | .green => some 32
  | .yellow => some 33
  | .blue => some 34
  | .magenta => some 35
  | .cyan => some 36
  | .gray => some 90
  | .lightRed => some 91
  | .lightGreen => some 92
  | .lightYellow => some 93
  | .lightBlue => some 94
  | .lightMagenta => some 95
  | .lightCyan => some 96
  | .lightGray => some 37
  | .white => some 97

end ColorName

namespace Color

/-- Where the channels are equal: the ends of the gray ramp for nearly black and nearly white, and
its 24 steps between them. -/
def grayIndex (level : Number) : Number :=
  if level < 8 then 16
  else if (248 : Number) < level then 231
  else ((level - 8) / 247 * 24).nearestWhole + 232

/-- The entry of the cube of six steps for each channel. -/
def cubeIndex (r g b : Number) : Number :=
  16 + 36 * (r / 255 * 5).nearestWhole + 6 * (g / 255 * 5).nearestWhole
    + (b / 255 * 5).nearestWhole

/-- The palette entry near a color. -/
def paletteIndex (r g b : Number) : Number :=
  if r.equals g ∧ g.equals b then grayIndex r else cubeIndex r g b

/-- The channels of a palette entry from 16 on, each between zero and one. -/
def paletteChannels (index : Number) : Number × Number × Number :=
  if (232 : Number) ≤ index then
    let level := ((index - 232) * 10 + 8) / 255
    (level, level, level)
  else
    let position := index - 16
    let rest := position.remainder 36
    ((position / 36).floor / 5, (rest / 6).floor / 5, rest.remainder 6 / 5)

/-- One bit for each channel that is at least half on, blue highest. -/
def channelBits (r g b : Number) : Number :=
  .ofWord (b.nearestWhole.toWord <<< 2 ||| g.nearestWhole.toWord <<< 1 ||| r.nearestWhole.toWord)

/-- The code of the basic color near a palette entry: black if all its channels are off, and a
bright one if its brightest channel is fully on. -/
def basicCode (index : Number) : Number :=
  if index < 8 then 30 + index
  else if index < 16 then 90 + (index - 8)
  else
    let (r, g, b) := paletteChannels index
    let value := Number.max (Number.max r g) b * 2
    if value.equals 0 then 30
    else
      let code := 30 + channelBits r g b
      if value.equals 2 then code + 60 else code

/-- Where a color goes: the code that turns it off, and how far its codes lie from those of
foregrounds. -/
structure Layer where
  closing : Nat
  shift : Nat
  deriving DecidableEq, Repr

/-- The color of the text. -/
def Layer.foreground : Layer := ⟨39, 0⟩

/-- The color behind the text. -/
def Layer.background : Layer := ⟨49, 10⟩

/-- The parameters of an extended color: what kind of color it is, and its numbers. -/
def extended (layer : Layer) (kind : Nat) (numbers : List Number) : Text :=
  joinWith (ofString ";") (ofNat (38 + layer.shift) :: ofNat kind :: numbers.map Number.toText)

/-- The stroke of a color at a depth; `reset` has none. -/
def stroke? (depth : ColorDepth) (layer : Layer) : Color → Option Stroke
  | .named name => name.code?.map fun code => .of (ofNat (code + layer.shift)) layer.closing
  | .indexed index => some (.of (extended layer 5 [index]) layer.closing)
  | .rgb r g b =>
    some (.of (match depth with
      | .full => extended layer 2 [r, g, b]
      | .palette => extended layer 5 [paletteIndex r g b]
      | _ => (basicCode (paletteIndex r g b) + (layer.shift : Number)).toText) layer.closing)

end Color

end EditorGutter
