import EditorGutter.Number.Decimal
import EditorGutter.Value.Compact

/-!
Pens: texts wrapped in the escape codes of a terminal.

A pen is a chain of strokes, each with a code that opens it and one that closes it.  Painting a
text opens all strokes in order and closes them in reverse.  A stroke that is closed inside the
text is opened again there, and all strokes are closed before a line break and opened after it, so
that no color runs past the end of a line.
-/
namespace EditorGutter

open Text

/-- How many colors a terminal shows. -/
inductive ColorDepth where
  /-- No codes at all. -/
  | none
  /-- Sixteen colors. -/
  | basic
  /-- A palette of 256 colors. -/
  | palette
  /-- Red, green and blue at eight bits each. -/
  | full
  deriving DecidableEq, Repr

/-- The escape character. -/
def escape : UInt16 := 0x1B

/-- The code that selects a graphic rendition. -/
def rendition (parameters : Text) : Text :=
  [escape] ++ ofString "[" ++ parameters ++ ofString "m"

/-- One property of the text to be painted, as the codes that turn it on and off. -/
structure Stroke where
  opening : Text
  closing : Text
  deriving DecidableEq, Repr

/-- The stroke with the given parameters of its two codes. -/
def Stroke.of (opening : Text) (closing : Nat) : Stroke :=
  ⟨rendition opening, rendition (ofNat closing)⟩

/-- The strokes to paint with, the first one outermost. -/
abbrev Pen := List Stroke

namespace Pen

/-- The codes that open all strokes. -/
def openAll (p : Pen) : Text := p.flatMap Stroke.opening

/-- The codes that close all strokes. -/
def closeAll (p : Pen) : Text := p.reverse.flatMap Stroke.closing

/-- Every occurrence of `code` followed by `addition`, with `skip` units of an occurrence still to
be copied. -/
def appendAfter (code addition : Text) : Nat → Text → Text
  | _, [] => []
  | skip + 1, u :: rest =>
    if skip = 0 then u :: (addition ++ appendAfter code addition 0 rest)
    else u :: appendAfter code addition skip rest
  | 0, u :: rest =>
    if code.isPrefixOf (u :: rest) then
      if code.length = 1 then u :: (addition ++ appendAfter code addition 0 rest)
      else u :: appendAfter code addition (code.length - 1) rest
    else u :: appendAfter code addition 0 rest

/-- The text with every stroke of the pen that it closes opened again, the innermost first. -/
def reopen (p : Pen) (t : Text) : Text :=
  p.foldr (fun stroke t => appendAfter stroke.closing stroke.opening 0 t) t

/-- The text with the strokes closed before each line break and opened after it. -/
def aroundBreaks (before after : Text) : Text → Text
  | [] => []
  | [u] => if u = 0x0A then before ++ u :: after else [u]
  | u :: v :: rest =>
    if u = 0x0D ∧ v = 0x0A then before ++ u :: v :: (after ++ aroundBreaks before after rest)
    else if u = 0x0A then before ++ u :: (after ++ aroundBreaks before after (v :: rest))
    else u :: aroundBreaks before after (v :: rest)

/-- Paints a text; without colors, and where there is no text or no stroke, it stays as it is. -/
def paint (depth : ColorDepth) (p : Pen) (t : Text) : Text :=
  if depth = .none ∨ t = [] ∨ p = [] then t
  else
    let reopened := if escape ∈ t then p.reopen t else t
    p.openAll ++ aroundBreaks p.closeAll p.openAll reopened ++ p.closeAll

end Pen

end EditorGutter
