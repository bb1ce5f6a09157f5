import EditorGutter.Gutter.Frame

/-!
Rows, column by column.

A row is drawn through an output that its columns share with each other and with the rows before
it.  Since the output is cleared before each call, what it held does not matter, and a row is the
list of what its columns draw by themselves (`writeRow_eq`); a frame has such a row for each line
(`writeRows_eq`).
-/
namespace EditorGutter

open Text

/-- The cell that a bound column draws on a line by itself. -/
def BoundColumn.cell (base : Style) (line : Number) (selected : Bool) (b : BoundColumn) : Cell :=
  let mark := b.draw line selected
  { column := b.column.name
    text := fit b.column.width mark.text
    style := overBase base mark.style }

/-- The row of a line, its cells drawn one by one. -/
def drawRow (base : Style) (cursorLines : List Nat) (bound : List BoundColumn) (line : Number) :
    Row :=
  let selected := cursorLines.any fun (l : Nat) => line = (l : Number)
  let cells := bound.map (BoundColumn.cell base line selected)
  { line := line
    selected := selected
    cells := cells
    text := cells.flatMap Cell.text
    style := overBase base (bound.findSome? fun b => (b.draw line selected).style) }

@[simp] theorem drawRow_line (base : Style) (cursorLines : List Nat) (bound : List BoundColumn)
    (line : Number) : (drawRow base cursorLines bound line).line = line := rfl

variable (base : Style) (line : Number) (selected : Bool)

/-- A cleared output ends up with what the one call wrote. -/
theorem LineRenderer.call_clear (draw : LineRenderer) (out : Output) :
    LineRenderer.call draw line selected out.clear =
      ((draw line selected).style, { text := (draw line selected).text }) := rfl

/-- One more column adds its own cell, and its style if there is none yet. -/
theorem RowDraft.draw_eq (d : RowDraft) (b : BoundColumn) :
    d.draw base line selected b =
      { out := { text := (b.draw line selected).text }
        style := d.style.or (b.draw line selected).style
        cells := d.cells ++ [b.cell base line selected] } := by
  rcases h : d.style with - | style
  · simp [RowDraft.draw, LineRenderer.call_clear, BoundColumn.cell, h]
  · simp [RowDraft.draw, LineRenderer.call_clear, BoundColumn.cell, h]

/-- The columns of a row add their own cells in order; the first style stays. -/
theorem foldl_draw (bound : List BoundColumn) (d : RowDraft) :
    let d' := bound.foldl (RowDraft.draw base line selected) d
    d'.cells = d.cells ++ bound.map (BoundColumn.cell base line selected) ∧
      d'.style = d.style.or (bound.findSome? fun b => (b.draw line selected).style) := by
  induction bound generalizing d with
  | nil =>
    refine ⟨(List.append_nil _).symm, ?_⟩
    rw [List.findSome?_nil, Option.or_none]
    rfl
  | cons b rest ih =>
    obtain ⟨hcells, hstyle⟩ := ih (d.draw base line selected b)
    rw [RowDraft.draw_eq] at hcells hstyle
    refine ⟨?_, ?_⟩
    · rw [List.foldl_cons, RowDraft.draw_eq, hcells, List.map_cons, List.append_assoc]
      rfl
    · rw [List.foldl_cons, RowDraft.draw_eq, hstyle, Option.or_assoc, List.findSome?_cons]
      rcases (b.draw line selected).style with - | style
      · rfl
      · rfl

/-- **What the output holds does not reach a row.** -/
theorem writeRow_eq (cursorLines : List Nat) (bound : List BoundColumn) (out : Output) :
    (writeRow base cursorLines bound line out).1 = drawRow base cursorLines bound line := by
  obtain ⟨hcells, hstyle⟩ := foldl_draw base line
    (cursorLines.any fun (l : Nat) => line = (l : Number)) bound { out := out }
  rw [List.nil_append] at hcells
  rw [Option.none_or] at hstyle
  unfold writeRow drawRow
  simp only [hcells, hstyle]

/-- The rows of a frame are drawn line by line, whatever the output holds at first. -/
theorem writeRows_eq (cursorLines : List Nat) (bound : List BoundColumn) (lines : List Number)
    (out : Output) :
    writeRows base cursorLines bound lines out =
      lines.map (drawRow base cursorLines bound) := by
  induction lines generalizing out with
  | nil => rfl
  | cons line rest ih =>
    show (writeRow base cursorLines bound line out).1 :: writeRows _ _ _ _ _ = _
    rw [ih, writeRow_eq, List.map_cons]

end EditorGutter
