import EditorGutter.Proofs.Selection.Clamping
import EditorGutter.Proofs.Selection.Cursor
import Mathlib.Data.List.Dedup
import Mathlib.Data.List.Sort

/-!
The lines that hold a cursor.

The cursor of a range in the text stands on an offset of the text (`Range.Within.exists_cursor`),
and so on exactly one line, the one it is looked up on (`Range.Within.cursorOn_iff`).  Each line is
put into an ascending list once, which comes to sorting the lines of the cursors without repetitions
(`Selection.cursorLines_eq_mergeSort`).  An ascending list is told by what is in it, so neither the
order of the ranges nor their number matters (`Selection.cursorLines_congr`).
-/
namespace EditorGutter

/-! ### The cursor of a range -/

namespace Range

variable {r : Range} {b : Buffer} {n l : Nat}

/-- The cursor of a range stands on a line: on its units, or on the line feed behind them. -/
def CursorOn (r : Range) (b : Buffer) (line : Number) : Prop :=
  ∃ c s : Nat, r.cursor b.text = (c : Number) ∧ b.lineOffset? line = some s ∧
    s ≤ c ∧ c ≤ s + b.lineLength line

/-- A range between two offsets of a text has its cursor on one of them, or between them. -/
theorem Within.exists_cursor {t : Text} (h : r.Within t.length) :
    ∃ c : Nat, c ≤ t.length ∧ r.cursor t = (c : Number) := by
  obtain ⟨anchor, head⟩ := r
  obtain ⟨⟨a, -, rfl⟩, e, he, rfl⟩ := h
  rcases Nat.lt_or_ge a e with hforward | hback
  · obtain ⟨o, rfl⟩ := Nat.exists_eq_add_of_lt hforward
    refine ⟨_, ?_, cursor_natCast (Nat.le_add_right a o) he⟩
    split <;> omega
  · exact ⟨e, he, if_pos (Number.natCast_le_natCast.mpr hback)⟩

/-- **The cursor of a range in the text stands on the line that holds it, and on no other.** -/
theorem Within.cursorOn_iff (h : r.Within b.length) (hl : l < b.lineCount) :
    r.CursorOn b (l : Number) ↔ l = b.lineAt (r.cursor b.text) := by
  obtain ⟨c, hc, hcursor⟩ := h.exists_cursor
  rw [hcursor]
  constructor
  · rintro ⟨c', s, hc', hs, hle, hspan⟩
    obtain rfl := Number.natCast_inj.mp (hcursor.symm.trans hc')
    exact (Buffer.lineAt_eq hl hs hle hspan).symm
  · rintro rfl
    obtain ⟨s, hs⟩ := Buffer.exists_lineOffset? hl
    exact ⟨c, s, hcursor, hs, Buffer.lineSpan_lineAt hc hs⟩

end Range

/-! ### The lines of a selection -/

namespace Selection

variable {s t : Selection} {b : Buffer} {l : Nat}

theorem lt_lineCount_of_mem_cursorLines (h : l ∈ s.cursorLines b) : l < b.lineCount := by
  obtain ⟨r, -, rfl⟩ := mem_cursorLines.mp h
  exact b.lineAt_lt_lineCount _

/-- The lines of the cursors in the text are those on which a cursor stands. -/
theorem Within.mem_cursorLines_iff (h : s.Within b.length) :
    l ∈ s.cursorLines b ↔ l < b.lineCount ∧ ∃ r ∈ s.ranges, r.CursorOn b (l : Number) := by
  constructor
  · intro hl
    have hlt := lt_lineCount_of_mem_cursorLines hl
    obtain ⟨r, hr, hline⟩ := mem_cursorLines.mp hl
    exact ⟨hlt, r, hr, ((h r hr).cursorOn_iff hlt).mpr hline⟩
  · rintro ⟨hlt, r, hr, hon⟩
    exact mem_cursorLines.mpr ⟨r, hr, ((h r hr).cursorOn_iff hlt).mp hon⟩

/-- **Selections of the same ranges have the same cursor lines**, whatever the order of the ranges
and however often each of them is there. -/
theorem cursorLines_congr (h : ∀ r, r ∈ s.ranges ↔ r ∈ t.ranges) :
    s.cursorLines b = t.cursorLines b := by
  refine (s.pairwise_cursorLines b).eq_of_mem_iff (t.pairwise_cursorLines b) ?_
  intro l
  simp only [mem_cursorLines, h]

/-- The lines of the cursors, each once, sorted. -/
theorem cursorLines_eq_mergeSort (s : Selection) (b : Buffer) :
    s.cursorLines b = (s.ranges.map fun r => b.lineAt (r.cursor b.text)).dedup.mergeSort := by
  generalize hlines : (s.ranges.map fun r => b.lineAt (r.cursor b.text)) = lines
  have hsorted : lines.dedup.mergeSort.SortedLT :=
    List.sortedLT_iff_nodup_and_sortedLE.mpr
      ⟨(List.mergeSort_perm _ _).nodup_iff.mpr lines.nodup_dedup, List.sortedLE_mergeSort⟩
  refine (s.pairwise_cursorLines b).eq_of_mem_iff hsorted.pairwise ?_
  intro l
  rw [List.mem_mergeSort, List.mem_dedup, ← hlines, List.mem_map, mem_cursorLines]
  simp only [eq_comm]

end Selection

end EditorGutter
