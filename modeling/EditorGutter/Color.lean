import EditorGutter.Fault
import EditorGutter.Text.Blank
import EditorGutter.Value.Record

/-!
Colors and their texts in theme files.

A color text is a `#` with six hexadecimal digits, the name of a terminal color, or a name from
the palette of the theme, whose own text may be either of the first two but not another palette
name.  Blanks around a color text do not count.
-/
namespace EditorGutter

/-- The colors that terminals know by name; `reset` is the terminal's default. -/
inductive ColorName where
  | reset
  | black
  | red
  | green
  | yellow
  | blue
  | magenta
  | cyan
  | gray
  | lightRed
  | lightGreen
  | lightYellow
  | lightBlue
  | lightMagenta
  | lightCyan
  | lightGray
  | white
  deriving DecidableEq, Repr

namespace ColorName

/-- The spelling of a color name. -/
def name : ColorName → String
  | .reset => "reset"
  | .black => "black"
  | .red => "red"
  | .green => "green"
  | .yellow => "yellow"
  | .blue => "blue"
  | .magenta => "magenta"
  | .cyan => "cyan"
  | .gray => "gray"
  | .lightRed => "lightRed"
  | .lightGreen => "lightGreen"
  | .lightYellow => "lightYellow"
  | .lightBlue => "lightBlue"
  | .lightMagenta => "lightMagenta"
  | .lightCyan => "lightCyan"
  | .lightGray => "lightGray"
  | .white => "white"

/-- Every color name. -/
def all : List ColorName :=
  [.reset, .black, .red, .green, .yellow, .blue, .magenta, .cyan, .gray, .lightRed, .lightGreen,
   .lightYellow, .lightBlue, .lightMagenta, .lightCyan, .lightGray, .white]

/-- The color name with the given spelling. -/
def ofText? (t : Text) : Option ColorName :=
  all.find? fun c => Text.ofString c.name = t

theorem mem_all (c : ColorName) : c ∈ all := by cases c <;> decide

end ColorName

/-- A color: a named one, one of red, green and blue, or an entry of the terminal's palette. -/
inductive Color where
  | named (name : ColorName)
  | rgb (r g b : Number)
  | indexed (index : Number)
  deriving DecidableEq, Repr

namespace Color

/-- Whether a color is one of red, green and blue. -/
def isRgb : Option Color → Bool
  | some (.rgb _ _ _) => true
  | _ => false

/-! ### Fading -/

/-- The share of a channel that is left when a color is faded. -/
def fadeShare : Number := Number.ofScientific false 4 (-1)

/-- A channel faded, rounded down. -/
def fadeChannel (c : Number) : Number := (c * fadeShare).floor

/-- The color of an inactive marker: each channel faded, or gray if there are none. -/
def fade : Option Color → Color
  | some (.rgb r g b) => .rgb (fadeChannel r) (fadeChannel g) (fadeChannel b)
  | _ => .named .gray

/-! ### Reading -/

/-- The number sign, with which a hexadecimal color starts. -/
def numberSign : UInt16 := 0x23

/-- The value of a hexadecimal digit of either case. -/
def hexValue? (u : UInt16) : Option Nat :=
  if 0x30 ≤ u && u ≤ 0x39 then some (u.toNat - 0x30)
  else if 0x61 ≤ u && u ≤ 0x66 then some (u.toNat - 0x61 + 10)
  else if 0x41 ≤ u && u ≤ 0x46 then some (u.toNat - 0x41 + 10)
  else none

/-- The value of two hexadecimal digits. -/
def hexByte? (high low : UInt16) : Option Nat := do
  let h ← hexValue? high
  let l ← hexValue? low
  return h * 16 + l

/-- The color that six hexadecimal digits give, two for each channel. -/
def ofHexDigits? : Text → Option Color
  | [r₁, r₂, g₁, g₂, b₁, b₂] => do
    let r ← hexByte? r₁ r₂
    let g ← hexByte? g₁ g₂
    let b ← hexByte? b₁ b₂
    return .rgb r g b
  | _ => none

/-- Reads a color text; a text that is neither hexadecimal nor a color name is looked up by
`resolve`. -/
def parseWith (resolve : Text → Option (Except ThemeFault Color)) (text : Text) :
    Except ThemeFault Color :=
  let value := text.trim
  match value with
  | u :: digits =>
    if u = numberSign then
      match ofHexDigits? digits with
      | some color => .ok color
      | none => .error (.malformedHex text)
    else named value
  | [] => named value
where
  /-- The color that a text names. -/
  named (value : Text) : Except ThemeFault Color :=
    match ColorName.ofText? value with
    | some name => .ok (.named name)
    | none =>
      match resolve value with
      | some result => result
      | none => .error (.unknownColor text)

/-- Reads a color text without a palette. -/
def parsePlain (text : Text) : Except ThemeFault Color := parseWith (fun _ => none) text

/-- Reads a color text with a palette, whose own texts are read without one. -/
def parse (palette : List (Text × Text)) (text : Text) : Except ThemeFault Color :=
  parseWith (fun name => (Record.find? name palette).map parsePlain) text

end Color

end EditorGutter
