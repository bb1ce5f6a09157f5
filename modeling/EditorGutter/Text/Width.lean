import EditorGutter.Fault
import EditorGutter.Number.Count
import EditorGutter.Text.Grapheme

/-!
Display width of texts in terminal cells, and fitting a text into a width.

Widths are measured per grapheme cluster, so a base character with its marks, or a sequence of
joined pictographs, counts and is cut as one unit.  `fit` keeps the clusters that still have room,
one after the other, and pads with spaces.
-/
namespace EditorGutter

namespace CodePoint

/-- Joiners, direction marks, variation selectors and combining marks: no cell. -/
def zeroWidthRanges : List (Nat × Nat) :=
  [(0x0300, 0x036F), (0x0483, 0x0489), (0x0591, 0x05BD), (0x1AB0, 0x1AFF), (0x1DC0, 0x1DFF),
   (0x200B, 0x200F), (0x2028, 0x202F), (0x2060, 0x206F), (0x20D0, 0x20FF), (0xFE00, 0xFE0F),
   (0xFE20, 0xFE2F), (0xFEFF, 0xFEFF), (0xE0100, 0xE01EF)]

/-- Pictographs that are shown as such by default: two cells. -/
def widePictographRanges : List (Nat × Nat) :=
  [(0x231A, 0x231B), (0x23E9, 0x23F3), (0x23F8, 0x23FA), (0x26AA, 0x26AB), (0x26BD, 0x26BE),
   (0x26C4, 0x26C5), (0x26CE, 0x26CE), (0x26D4, 0x26D4), (0x26EA, 0x26EA), (0x26F2, 0x26F3),
   (0x26F5, 0x26F5), (0x26FA, 0x26FA), (0x26FD, 0x26FD), (0x2705, 0x2705), (0x274C, 0x274C),
   (0x274E, 0x274E), (0x2753, 0x2755), (0x2757, 0x2757), (0x2B1B, 0x2B1C), (0x2B50, 0x2B55),
   (0x1F004, 0x1F0CF), (0x1F1E0, 0x1F1FF), (0x1F300, 0x1F9FF)]

/-- East Asian ideographs, Hangul and fullwidth forms: two cells. -/
def wideScriptRanges : List (Nat × Nat) :=
  [(0x1100, 0x115F), (0x2E80, 0xA4CF), (0xAC00, 0xD7A3), (0xF900, 0xFAFF), (0xFE10, 0xFE1F),
   (0xFE30, 0xFE6F), (0xFF00, 0xFF60), (0xFFE0, 0xFFE6), (0x20000, 0x2FFFF)]

/-- The cells that one code point takes: none, one or two. -/
def width (c : CodePoint) : Nat :=
  if c < 32 then 0
  else if c < 127 then 1
  else if inRanges zeroWidthRanges c then 0
  else if inRanges widePictographRanges c || inRanges wideScriptRanges c then 2
  else 1

theorem width_le_two (c : CodePoint) : width c ≤ 2 := by
  unfold width; repeat' split
  all_goals omega

theorem width_space : width 0x20 = 1 := rfl

end CodePoint

namespace Text

/-! ### Widths -/

/-- The cells of the first code point, none for the empty text. -/
def leadWidth (t : Text) : Nat :=
  match codePoints t with
  | [] => 0
  | c :: _ => CodePoint.width c

/-- The cells of one cluster: those of its widest code point. -/
def graphemeWidth (g : Text) : Nat := ((codePoints g).map CodePoint.width).foldl max 0

/-- The cells of a text: the sum over its clusters. -/
def displayWidth (t : Text) : Nat := total graphemeWidth (graphemes t)

/-! ### Fitting -/

/-- The leading clusters that together take at most `room` cells, up to the first that does not
fit. -/
def keepFitting : Nat → List Text → List Text
  | _, [] => []
  | room, g :: gs =>
    if graphemeWidth g ≤ room then g :: keepFitting (room - graphemeWidth g) gs else []

/-- The leading clusters of a split text that fit into `width` cells, padded with spaces to
exactly that many. -/
def fitClusters (width : Nat) (gs : List Text) : Text :=
  let kept := keepFitting width gs
  kept.flatten ++ spaces (width - total graphemeWidth kept)

/-- The text cut and padded to `width` cells without splitting a cluster; a wide cluster that
would straddle the edge is dropped and its cell padded. -/
def fit (width : Nat) (t : Text) : Text := fitClusters width (graphemes t)

/-- So many spaces.  Of a fraction the whole part counts, and NaN counts none; a count of minus one
or less, or an infinite one, cannot be had. -/
def spacesFor (count : Number) : Except Fault Text :=
  match count with
  | .nan => .ok []
  | .finite q =>
    if q ≤ -1 then .error (.range (.repeatCount count)) else .ok (spaces q.floor.toNat)
  | _ => .error (.range (.repeatCount count))

/-- The leading clusters that fit into a width of which some cells are used, up to the first that
does not, and the cells that are used then.  NaN bounds nothing. -/
def keepWithin (width : Number) (used : Nat) : List Text → List Text × Nat
  | [] => ([], used)
  | g :: gs =>
    if width < (used + graphemeWidth g : Nat) then ([], used)
    else
      let (kept, used) := keepWithin width (used + graphemeWidth g) gs
      (g :: kept, used)

/-- Fits the clusters of a split text into a width that may be any number; it fails if the cells
that are left cannot be padded.  A count of cells loses none of them to rounding. -/
def fitClustersInto (width : Number) (gs : List Text) : Except Fault Text :=
  let (kept, used) := keepWithin width 0 gs
  (spacesFor (width.moveBy width (-used))).map fun padding => kept.flatten ++ padding

/-- Fits a text into a width that may be any number.  A count of cells can always be fitted into
(`fitInto_natCast`). -/
def fitInto (width : Number) (t : Text) : Except Fault Text := fitClustersInto width (graphemes t)

theorem total_keepFitting_le (room : Nat) (gs : List Text) :
    total graphemeWidth (keepFitting room gs) ≤ room := by
  induction gs generalizing room with
  | nil => simp [keepFitting]
  | cons g gs ih =>
    simp only [keepFitting]
    split
    · have := ih (room - graphemeWidth g)
      rw [total_cons]
      omega
    · simp

theorem keepFitting_prefix (room : Nat) (gs : List Text) : keepFitting room gs <+: gs := by
  induction gs generalizing room with
  | nil => simp [keepFitting]
  | cons g gs ih =>
    simp only [keepFitting]
    split
    · simpa [List.cons_prefix_cons] using ih _
    · simp

end Text

end EditorGutter
