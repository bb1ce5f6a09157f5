import EditorGutter.Proofs.Gutter.Binding
import EditorGutter.Proofs.Selection.CursorLines
import EditorGutter.Proofs.Selection.Primary
import EditorGutter.Proofs.View.OnScreen

/-!
Which rows of a frame are selected.

A row is selected if its line is among the cursor lines of the selection.  A line on screen is a
line of the document or a fraction that names none (`View.FromTop.onScreen`), and a cursor in the
text stands on exactly one line, so a row is selected exactly if a cursor stands on its line, be it
a line of the document or not (`Columns.render_selected_iff`).
-/
namespace EditorGutter

variable {scene : Scene}

/-- The line of the primary cursor holds a cursor. -/
theorem Selection.mem_of_primaryCursorLine {s : Selection} {b : Buffer} {l : Nat}
    (h : s.primaryCursorLine b = .ok l) : l ∈ s.cursorLines b := by
  unfold primaryCursorLine at h
  split at h
  · next r hr =>
    obtain rfl := Except.ok.inj h
    exact mem_cursorLines.mpr ⟨r, mem_of_primary?_eq_some hr, rfl⟩
  · cases h

/-- A row is selected exactly if its line is a cursor line. -/
theorem drawRow_selected_iff {base : Style} {lines : List Nat} {bound : List BoundColumn}
    {line : Number} :
    (drawRow base lines bound line).selected = true ↔ ∃ l ∈ lines, line = (l : Number) := by
  show lines.any _ = true ↔ _
  rw [List.any_eq_true]
  simp only [decide_eq_true_iff]

/-- A line on screen is a cursor line exactly if a cursor stands on it. -/
theorem Scene.exists_cursorLine_iff {line : Number} (hview : scene.view.Reachable)
    (hsel : (scene.doc.selection scene.view.id).Within scene.doc.buffer.length)
    (h : line ∈ scene.visibleLines) :
    (∃ l ∈ scene.cursorLines, line = (l : Number)) ↔
      ∃ r ∈ (scene.doc.selection scene.view.id).ranges, r.CursorOn scene.doc.buffer line := by
  obtain ⟨hneg, hpast⟩ := hview.fromTop.onScreen h
  have hmem := fun l => hsel.mem_cursorLines_iff (l := l)
  rcases Buffer.lineOffset?_cases hneg hpast with ⟨l, hl, rfl⟩ | hnone
  · constructor
    · rintro ⟨l', hl', heq⟩
      obtain rfl := Number.natCast_inj.mp heq
      exact ((hmem l).mp hl').2
    · intro hr
      exact ⟨l, (hmem l).mpr ⟨hl, hr⟩, rfl⟩
  · -- a fraction is no line, and no cursor stands on it
    constructor
    · rintro ⟨l, hl, rfl⟩
      obtain ⟨s, hs⟩ := Buffer.exists_lineOffset? ((hmem l).mp hl).1
      cases hnone.symm.trans hs
    · rintro ⟨r, -, c, s, -, hs, -⟩
      cases hnone.symm.trans hs

namespace Columns

variable {cs : Columns} {frame : Frame}

/-- **The selected rows are those of the lines on which a cursor stands.**  The cursor lines are
ascending lines of the document, those that hold the cursor of a range and no others, and neither
the order of the ranges nor their repetition changes them.  The line of the primary cursor is one of
them, and its row is selected when it is on screen. -/
theorem render_selected_iff (path : Option Text) (text : Text) (steps : List Document.Step)
    (hwhole : ∀ st ∈ steps, st.Whole) (hdoc : scene.doc = (Document.create path text).run steps)
    (hprimary : scene.doc.PrimaryByCount) (hview : scene.view.Reachable)
    (h : cs.render scene = .ok frame) :
    let b := scene.doc.buffer
    let s := scene.doc.selection scene.view.id
    (∀ row ∈ frame.rows, row.selected = true ↔ ∃ r ∈ s.ranges, r.CursorOn b row.line) ∧
    (s.cursorLines b).Pairwise (· < ·) ∧
    (∀ l ∈ s.cursorLines b, l < b.lineCount) ∧
    (∀ l, l ∈ s.cursorLines b ↔ ∃ r ∈ s.ranges, l = b.lineAt (r.cursor b.text)) ∧
    (∀ l < b.lineCount, l ∈ s.cursorLines b ↔ ∃ r ∈ s.ranges, r.CursorOn b (l : Number)) ∧
    (∃ l ∈ s.cursorLines b, s.primaryCursorLine b = .ok l ∧
      ((l : Number) ∈ scene.visibleLines →
        ∃ row ∈ frame.rows, row.line = (l : Number) ∧ row.selected = true)) ∧
    ∀ t : Selection, (∀ r, r ∈ t.ranges ↔ r ∈ s.ranges) → t.cursorLines b = s.cursorLines b := by
  intro b s
  have hsel : s.Within b.length := by
    have hheld := (Document.held_create path text).run hwhole
    rw [← hdoc] at hheld
    exact hheld _
  obtain ⟨bound, -, -, hrows⟩ := render_eq_ok.mp h
  refine ⟨?rows, s.pairwise_cursorLines b, fun l => Selection.lt_lineCount_of_mem_cursorLines,
    fun l => Selection.mem_cursorLines, ?on, ?primary, fun t => Selection.cursorLines_congr⟩
  case rows =>
    intro row hrow
    rw [hrows] at hrow
    obtain ⟨line, hline, rfl⟩ := List.mem_map.mp hrow
    rw [drawRow_selected_iff]
    exact Scene.exists_cursorLine_iff hview hsel hline
  case on =>
    intro l hl
    rw [hsel.mem_cursorLines_iff]
    exact and_iff_right hl
  case primary =>
    obtain ⟨i, hi⟩ := hprimary scene.view.id
    obtain ⟨l, hl⟩ := Selection.exists_primaryCursorLine hi b
    have hmem := Selection.mem_of_primaryCursorLine hl
    refine ⟨l, hmem, hl, ?_⟩
    intro hvisible
    refine ⟨drawRow scene.baseStyle scene.cursorLines bound l, ?_, rfl, ?_⟩
    · rw [hrows]
      exact List.mem_map_of_mem hvisible
    · exact drawRow_selected_iff.mpr ⟨l, hmem, rfl⟩

/-- A range drawn forward over a surrogate pair, one drawn backward from past the text, and an empty
one on the line of the first; the second is primary. -/
def manyCursors : Selection :=
  ⟨[⟨2, 5⟩, ⟨40, 6⟩, ⟨3, 3⟩], 1, by decide, by decide +kernel, by decide +kernel⟩

/-- A text of three lines for these ranges, which then grows by two. -/
def manyCursorsSteps : List Document.Step :=
  [.setSelection 1 manyCursors, .setText (Text.ofString "ab\n😀\ncd\n\n")]

/-- The document after these calls, shown by a view of ten rows. -/
def manyCursorsScene : Scene :=
  { Sample.scene .absolute with
    doc := (Document.create (some Sample.path) (Text.ofString "ab\n😀\n")).run manyCursorsSteps }

/-- The ranges as the text holds them, in another order and one of them twice. -/
def rearrangedCursors : Selection :=
  ⟨[⟨6, 6⟩, ⟨3, 3⟩, ⟨2, 5⟩, ⟨6, 6⟩], 0, by decide, by decide +kernel, by decide +kernel⟩

/-- The three cursors are on two lines, whatever the order of their ranges. -/
theorem render_selected_iff_manyCursors :
    (∀ st ∈ manyCursorsSteps, st.Whole) ∧ manyCursorsScene.doc.PrimaryByCount ∧
      manyCursorsScene.view.Reachable ∧
      ∃ frame, (oneEach 2 Nat.two_pos).render manyCursorsScene = .ok frame ∧
        manyCursorsScene.cursorLines = [1, 2] ∧
        (∀ row ∈ frame.rows, row.selected = true ↔
          ∃ r ∈ (manyCursorsScene.doc.selection 1).ranges,
            r.CursorOn manyCursorsScene.doc.buffer row.line) ∧
        (∃ row ∈ frame.rows, row.line = 2 ∧ row.selected = true) ∧
        rearrangedCursors.cursorLines manyCursorsScene.doc.buffer = [1, 2] := by
  have hwhole : ∀ st ∈ manyCursorsSteps, st.Whole := by
    intro st hst
    simp only [manyCursorsSteps, List.mem_cons, List.not_mem_nil, or_false] at hst
    rcases hst with rfl | rfl
    · intro r hr
      simp only [manyCursors, List.mem_cons, List.not_mem_nil, or_false] at hr
      rcases hr with rfl | rfl | rfl
      · exact ⟨⟨2, rfl⟩, 5, rfl⟩
      · exact ⟨⟨40, rfl⟩, 6, rfl⟩
      · exact ⟨⟨3, rfl⟩, 3, rfl⟩
    · trivial
  have hprimary : manyCursorsScene.doc.PrimaryByCount := by
    intro v
    refine Selection.hasPrimary_iff.mp ((Document.hasPrimary_run _ _ _ v).mpr ?_)
    intro s hs
    simp only [Document.lastSelection?, manyCursorsSteps, List.reverse_cons, List.reverse_nil,
      List.nil_append, List.cons_append, List.findSome?_cons, Document.Step.selectionFor?] at hs
    split at hs
    · next hset =>
      split at hset
      · obtain rfl := Option.some.inj hset
        obtain rfl := Option.some.inj hs
        exact Selection.hasPrimary_iff.mpr ⟨1, rfl⟩
      · cases hset
    · cases hs
  have hview : manyCursorsScene.view.Reachable :=
    .create (Number.representable_natCast (n := 10) (by decide))
      (show View.create 10 0 1 = .ok Sample.view from rfl)
  have hlines : manyCursorsScene.cursorLines = [1, 2] := by decide +kernel
  have hranges : ∀ r, r ∈ rearrangedCursors.ranges ↔
      r ∈ (manyCursorsScene.doc.selection 1).ranges := by
    intro r
    rw [show (manyCursorsScene.doc.selection 1).ranges = [⟨2, 5⟩, ⟨6, 6⟩, ⟨3, 3⟩] by
      decide +kernel]
    simp only [rearrangedCursors, List.mem_cons, List.not_mem_nil, or_false]
    tauto
  obtain ⟨frame, h⟩ : ∃ frame, (oneEach 2 Nat.two_pos).render manyCursorsScene = .ok frame :=
    exists_eq_ok (by decide +kernel)
  obtain ⟨hrows, -, -, -, -, ⟨l, -, hl, hvisible⟩, hcongr⟩ :=
    render_selected_iff _ _ manyCursorsSteps hwhole rfl hprimary hview h
  obtain rfl : l = 2 := Except.ok.inj (hl.symm.trans (by decide +kernel))
  exact ⟨hwhole, hprimary, hview, frame, h, hlines, hrows, hvisible (by decide +kernel),
    (hcongr _ hranges).trans hlines⟩

end Columns

end EditorGutter
