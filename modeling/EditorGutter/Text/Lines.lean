import EditorGutter.Text.Basic

/-!
Line breaks of a text.

`normalizeBreaks` leaves the line feed as the only line break, in two replacements: first each
pair of a carriage return and a line feed becomes one line feed, then each carriage return that
is left does.  `breakEnds` finds the offsets at which new lines start.
-/
namespace EditorGutter

namespace Text

/-- The line feed, which ends a line. -/
def lineFeed : UInt16 := 0x0A

/-- The carriage return. -/
def carriageReturn : UInt16 := 0x0D

/-- Each carriage return that is directly followed by a line feed is dropped. -/
def joinPairs : Text → Text
  | [] => []
  | [u] => [u]
  | u :: v :: rest =>
    if u = carriageReturn ∧ v = lineFeed then lineFeed :: joinPairs rest
    else u :: joinPairs (v :: rest)

/-- Each carriage return becomes a line feed. -/
def returnsToFeeds (t : Text) : Text :=
  t.map fun u => if u = carriageReturn then lineFeed else u

/-- The text with a line feed for every line break, of whichever of the three forms it was. -/
def normalizeBreaks (t : Text) : Text := returnsToFeeds (joinPairs t)

/-- The offsets just past the line feeds of a text that stands at offset `start`. -/
def breakEnds (start : Nat) : Text → List Nat
  | [] => []
  | u :: rest =>
    if u = lineFeed then (start + 1) :: breakEnds (start + 1) rest else breakEnds (start + 1) rest

theorem length_breakEnds (start : Nat) (t : Text) :
    (breakEnds start t).length = t.count lineFeed := by
  induction t generalizing start with
  | nil => rfl
  | cons u rest ih =>
    by_cases h : u = lineFeed
    · simp [breakEnds, h, ih]
    · simp [breakEnds, h, ih]

theorem carriageReturn_notMem_normalizeBreaks (t : Text) :
    carriageReturn ∉ normalizeBreaks t := by
  simp only [normalizeBreaks, returnsToFeeds, List.mem_map, not_exists, not_and]
  intro u _
  split
  · decide
  · assumption

end Text

end EditorGutter
