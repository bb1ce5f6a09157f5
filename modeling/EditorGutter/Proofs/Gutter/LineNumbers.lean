import EditorGutter.Gutter.Frame
import EditorGutter.Proofs.Buffer.LineStarts
import EditorGutter.Proofs.Gutter.Lookups
import EditorGutter.Proofs.View.Geometry

/-!
What the line numbers show, told from the document alone.

The renderer finds the last line on screen and compares byte offsets to see whether that line has
a number.  On a visible line this comes to a question about the document only: is the line the
empty last line of its buffer (`atUnnumbered_iff`)?  So what is drawn there does not mention the
view (`bindLineNumbers_draw`).
-/
namespace EditorGutter

open Text

variable {scene : Scene} {o l : Nat}

/-- The mark of a line by the document alone: its empty last line is not numbered. -/
def numberedMark (scene : Scene) (width : Nat) (plain : Style) (cursor line : Nat)
    (selected : Bool) : Mark :=
  if scene.doc.buffer.IsEmptyLast line then
    { text := padLeft width (ofString Glyph.emptyLastLine), style := some plain }
  else
    { text := padLeft width (shownNumber scene.editor.config.numbering cursor line).toText
      style := some (if selected && scene.focused
        then (scene.theme.style? Scope.lineNumberSelected.text).getD plain else plain) }

/-- The last line on screen has a number unless it is the empty last line of the document. -/
theorem numbersLast_iff {m : Nat} (hlast : scene.view.lastLine scene.doc.buffer = (m : Number))
    (hm : m < scene.doc.buffer.lineCount) :
    numbersLast scene = true ↔ ¬ scene.doc.buffer.IsEmptyLast m := by
  rw [numbersLast, hlast, decide_eq_true_iff]
  exact Buffer.lineByteOffset_lt_byteLength_iff hm

/-- On a visible line the renderer leaves out the number exactly if the line is the empty last
line of the document. -/
theorem atUnnumbered_iff (ho : scene.view.AtLine o) (hl : (l : Number) ∈ scene.visibleLines) :
    ((l : Number).equals (scene.view.lastLine scene.doc.buffer) && !numbersLast scene) = true ↔
      scene.doc.buffer.IsEmptyLast l := by
  obtain ⟨l', hll', hol, hlv, hlb⟩ := (View.mem_visibleLines ho).mp hl
  obtain rfl := Number.natCast_inj.mp hll'
  -- some line is visible, so the last one on screen is a line of the document
  obtain ⟨m, hm⟩ : ∃ m, min (o + scene.view.height) scene.doc.buffer.lineCount = m + 1 :=
    ⟨_, (Nat.sub_add_cancel (by omega : 1 ≤ _)).symm⟩
  have hlast : scene.view.lastLine scene.doc.buffer = (m : Number) := by
    rw [View.lastLine_eq ho (by omega), hm, ← Number.intCast_natCast]
    congr 1
    omega
  have hmb : m < scene.doc.buffer.lineCount := by omega
  rw [Bool.and_eq_true, Bool.not_eq_true', ← Bool.not_eq_true, numbersLast_iff hlast hmb, hlast,
    Number.equals_natCast, not_not]
  constructor
  · rintro ⟨rfl, hempty⟩
    exact hempty
  · intro hempty
    -- nothing comes after the empty last line, so it is also the last line on screen
    obtain rfl : l = m := by
      have := hempty.1
      omega
    exact ⟨rfl, hempty⟩

/-- Bound line numbers look up their style and the primary cursor, and draw on a visible line what
the document has there. -/
theorem bindLineNumbers_draw (scene : Scene) {width : Nat} {draw : LineRenderer}
    (ho : scene.view.AtLine o) (h : bindLineNumbers scene width = .ok draw) :
    ∃ plain cursor, scene.theme.style Scope.lineNumber.text = .ok plain ∧
      (scene.doc.selection scene.view.id).primaryCursorLine scene.doc.buffer = .ok cursor ∧
      ∀ l : Nat, (l : Number) ∈ scene.visibleLines → ∀ selected,
        draw l selected = numberedMark scene width plain cursor l selected := by
  obtain ⟨plain, hplain, h⟩ := exists_of_bind_eq_ok ((bindLineNumbers_eq scene width).symm.trans h)
  obtain ⟨cursor, hcursor, h⟩ := exists_of_bind_eq_ok h
  obtain rfl := Except.ok.inj h
  refine ⟨plain, cursor, hplain, hcursor, ?_⟩
  intro l hl selected
  have hiff := atUnnumbered_iff ho hl
  unfold numberedMark
  by_cases hempty : scene.doc.buffer.IsEmptyLast l
  · rw [if_pos hempty]
    exact if_pos (hiff.mpr hempty)
  · rw [if_neg hempty]
    exact if_neg fun h => hempty (hiff.mp h)

end EditorGutter
