import EditorGutter.Color
import EditorGutter.Number.Order
import EditorGutter.Number.Word

/-!
Styles: colors and text modifiers, and how styles are laid over one another.

A style says which modifiers it turns on and which it turns off, each as a mask of 32 bits, and
sets a foreground or a background or leaves it as it is.  `Style.patch` lays one style over
another.  Masks are numbers; every operation on them works on the 32-bit words that they stand
for and gives the signed value of a word.
-/
namespace EditorGutter

/-! ### Modifiers -/

/-- The text modifiers of a terminal. -/
inductive Modifier where
  | bold
  | dim
  | italic
  | underlined
  | slowBlink
  | rapidBlink
  | reversed
  | hidden
  | crossedOut
  deriving DecidableEq, Repr

namespace Modifier

/-- The bit of a modifier in a mask. -/
def bit : Modifier → Nat
  | .bold => 0
  | .dim => 1
  | .italic => 2
  | .underlined => 3
  | .slowBlink => 4
  | .rapidBlink => 5
  | .reversed => 6
  | .hidden => 7
  | .crossedOut => 8

/-- The mask of one modifier. -/
def mask (m : Modifier) : Number := (1 <<< m.bit : Nat)

/-- The spelling of a modifier in theme files. -/
def name : Modifier → String
  | .bold => "bold"
  | .dim => "dim"
  | .italic => "italic"
  | .underlined => "underlined"
  | .slowBlink => "slow_blink"
  | .rapidBlink => "rapid_blink"
  | .reversed => "reversed"
  | .hidden => "hidden"
  | .crossedOut => "crossed_out"

/-- Every modifier, in the order of their bits. -/
def all : List Modifier :=
  [.bold, .dim, .italic, .underlined, .slowBlink, .rapidBlink, .reversed, .hidden, .crossedOut]

theorem mem_all (m : Modifier) : m ∈ all := by cases m <;> decide

theorem bit_lt (m : Modifier) : m.bit < 32 := by cases m <;> decide

/-- The modifier with the given spelling. -/
def ofText? (t : Text) : Option Modifier :=
  all.find? fun m => Text.ofString m.name = t

end Modifier

/-! ### Masks -/

/-- The modifiers of either mask. -/
def maskUnion (a b : Number) : Number := .ofWord (a.toWord ||| b.toWord)

/-- The modifiers of the first mask that are not in the second. -/
def maskWithout (a b : Number) : Number := .ofWord (a.toWord &&& ~~~b.toWord)

/-- The modifiers of both masks. -/
def maskInter (a b : Number) : Number := .ofWord (a.toWord &&& b.toWord)

/-! ### Styles -/

/-- Colors and modifiers to draw with. -/
structure Style where
  fg : Option Color := none
  bg : Option Color := none
  /-- The modifiers that the style turns on. -/
  add : Number := 0
  /-- The modifiers that the style turns off where it is laid over another. -/
  sub : Number := 0
  deriving DecidableEq, Repr

namespace Style

/-- The style that changes nothing. -/
def empty : Style := {}

instance : Inhabited Style := ⟨empty⟩

/-- The style with another foreground. -/
def withFg (color : Color) (s : Style) : Style := { s with fg := some color }

/-- The style with another background. -/
def withBg (color : Color) (s : Style) : Style := { s with bg := some color }

/-- The style turning modifiers on. -/
def addModifier (mask : Number) (s : Style) : Style :=
  { s with add := maskUnion s.add mask, sub := maskWithout s.sub mask }

/-- The style turning modifiers off. -/
def removeModifier (mask : Number) (s : Style) : Style :=
  { s with add := maskWithout s.add mask, sub := maskUnion s.sub mask }

/-- Whether the style turns on all modifiers of a mask; never so for a mask that is not the signed
value of a word. -/
def hasModifier (s : Style) (mask : Number) : Bool := (maskInter s.add mask).equals mask

/-- `layer` laid over `base`: its colors win where it sets them, modifiers accumulate, and those
that it turns off are taken from `base`. -/
def patch (base layer : Style) : Style where
  fg := layer.fg <|> base.fg
  bg := layer.bg <|> base.bg
  add := maskUnion (maskWithout base.add layer.sub) layer.add
  sub := maskUnion (maskWithout base.sub layer.add) layer.sub

end Style

end EditorGutter
