import EditorGutter.Number.Count
import EditorGutter.Text.Lines

/-!
The index of line starts of a text.

Line `l` starts just past the `l`-th line feed, and line 0 at offset 0, so a text has one line more
than it has line feeds (`count_ofText`).  Asked for the start of a line before the first or past the
last, the index answers with the first or the last start; a fraction or NaN between them names no
line.  For another text the table is emptied and filled again as the text is gone through, so
nothing stays of what it held (`rebuild_eq`).  Asked for the line of an offset, it halves the table
of starts until one is left, the first one for every offset that is not above zero and for NaN.
-/
namespace EditorGutter

/-- The offsets at which the lines of a text start, in ascending order; there is at least one. -/
structure LineIndex where
  starts : List Nat
  starts_ne_nil : starts ≠ []
  deriving DecidableEq

namespace LineIndex

/-- The line starts of a text. -/
def ofText (t : Text) : LineIndex := ⟨0 :: Text.breakEnds 0 t, List.cons_ne_nil _ _⟩

/-- The table with one more start at its end. -/
def push (x : LineIndex) (start : Nat) : LineIndex :=
  ⟨x.starts ++ [start], List.append_ne_nil_of_right_ne_nil _ (List.cons_ne_nil _ _)⟩

/-- The table with the place just past each line feed of a text added, where the text stands at
offset `start`. -/
def addBreaks (x : LineIndex) (start : Nat) : Text → LineIndex
  | [] => x
  | u :: rest =>
    if u = Text.lineFeed then (x.push (start + 1)).addBreaks (start + 1) rest
    else x.addBreaks (start + 1) rest

/-- The table filled again for another text, from the start of the first line on. -/
def rebuild (_ : LineIndex) (t : Text) : LineIndex :=
  addBreaks ⟨[0], List.cons_ne_nil _ _⟩ 0 t

/-- The number of lines. -/
def count (x : LineIndex) : Nat := x.starts.length

/-- The start of the last line. -/
def lastStart (x : LineIndex) : Nat := x.starts.getLast x.starts_ne_nil

/-- The start of a line. -/
def start? (x : LineIndex) (line : Number) : Option Nat :=
  if line < 0 then some 0
  else if (x.count : Number) ≤ line then some x.lastStart
  else
    match line.toNat? with
    | some l => x.starts[l]?
    | none => none

/-- The last of the entries from `low` to `high` that is not past an offset, provided that the entry
`low` is not, by halving the range.  The midpoint is rounded up, so either half is smaller. -/
def search (x : LineIndex) (offset : Number) (low high : Nat) : Nat :=
  if low < high then
    let middle := (low + high + 1) / 2
    if x.starts[middle]?.any fun (s : Nat) => (s : Number) ≤ offset then x.search offset middle high
    else x.search offset low (middle - 1)
  else low
termination_by high - low

/-- The line that holds an offset: the last one that starts at or before it. -/
def lineAt (x : LineIndex) (offset : Number) : Nat :=
  if offset ≤ 0 then 0 else x.search offset 0 (x.count - 1)

theorem starts_addBreaks (x : LineIndex) (start : Nat) (t : Text) :
    (x.addBreaks start t).starts = x.starts ++ Text.breakEnds start t := by
  induction t generalizing x start with
  | nil => simp [addBreaks, Text.breakEnds]
  | cons u rest ih =>
    by_cases h : u = Text.lineFeed
    · simp [addBreaks, Text.breakEnds, h, ih, push]
    · simp [addBreaks, Text.breakEnds, h, ih]

/-- Whatever the table held, it ends up as that of the other text. -/
theorem rebuild_eq (x : LineIndex) (t : Text) : x.rebuild t = ofText t := by
  have hstarts : (x.rebuild t).starts = (ofText t).starts := starts_addBreaks _ 0 t
  cases hx : x.rebuild t
  rw [hx] at hstarts
  cases hstarts
  rfl

theorem count_ofText (t : Text) : (ofText t).count = t.count Text.lineFeed + 1 := by
  simp [count, ofText, Text.length_breakEnds]

theorem count_pos (x : LineIndex) : 0 < x.count :=
  List.length_pos_iff.2 x.starts_ne_nil

theorem search_le (x : LineIndex) (offset : Number) {low high : Nat} (h : low ≤ high) :
    x.search offset low high ≤ high := by
  fun_induction x.search offset low high with
  | case1 low high _ middle _ ih => exact ih (by omega)
  | case2 low high _ middle _ ih =>
    have := ih (by omega)
    omega
  | case3 low high _ => exact h

theorem lineAt_lt_count (x : LineIndex) (offset : Number) : x.lineAt offset < x.count := by
  have hcount := x.count_pos
  unfold lineAt
  split
  · exact hcount
  · have := x.search_le offset (Nat.zero_le (x.count - 1))
    omega

end LineIndex

end EditorGutter
