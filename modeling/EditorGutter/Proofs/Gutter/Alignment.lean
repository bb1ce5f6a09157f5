import EditorGutter.Proofs.Gutter.Binding
import EditorGutter.Proofs.Number.DecimalText
import EditorGutter.Proofs.Text.Plain
import EditorGutter.Sample

/-!
Frames of the editor's gutters are aligned.

The gutters of the editor write plain text only, whatever they draw (`GutterKind.plain_bind`): a
mark, blanks, or the text of a number.  Plain text is fitted to a width by units, so a cell has as
many units as its column has cells, also when a number is cut, and the cells of a row add up
(`Columns.render_aligned`).
-/
namespace EditorGutter

open Text

/-! ### What the gutters write -/

/-- A unit of printable characters is one of them. -/
theorem exists_of_mem_ofChars {cs : List Char} {u : UInt16} (h : ∀ c ∈ cs, Number.Printable c)
    (hu : u ∈ ofChars cs) : ∃ c ∈ cs, u.toNat = c.toNat := by
  obtain ⟨c, hc, huc⟩ := List.mem_flatMap.mp hu
  obtain ⟨-, hhigh⟩ := h c hc
  rw [ofCodePoint, if_pos (by omega), List.mem_singleton] at huc
  refine ⟨c, hc, ?_⟩
  rw [huc]
  exact UInt16.toNat_ofNat_of_lt' (Nat.lt_of_le_of_lt hhigh (by decide))

theorem plain_ofChars {cs : List Char} (h : ∀ c ∈ cs, Number.Printable c) : Plain (ofChars cs) := by
  intro u hu
  obtain ⟨c, hc, huc⟩ := exists_of_mem_ofChars h hu
  exact .inl (huc ▸ h c hc)

theorem plain_toText (x : Number) : Plain x.toText := plain_ofChars x.printable_toChars

theorem plain_diagnostic : Plain (ofString Glyph.diagnostic) := by decide +kernel

theorem plain_emptyLastLine : Plain (ofString Glyph.emptyLastLine) := by decide +kernel

theorem plain_breakpointGlyph (b : Breakpoint) : Plain (ofString (breakpointGlyph b)) := by
  unfold breakpointGlyph
  split
  · show Plain (ofString Glyph.breakpointVerified)
    decide +kernel
  · show Plain (ofString Glyph.breakpointUnverified)
    decide +kernel

/-- A gutter of the editor draws plain text on every line. -/
theorem GutterKind.plain_bind {kind : GutterKind} {scene : Scene} {width : Nat}
    {draw : LineRenderer} (h : kind.bind scene width = .ok draw) (line : Number)
    (selected : Bool) : Plain (draw line selected).text := by
  cases GutterKind.draws_of_bind h with
  | diagnostics styles =>
    unfold drawDiagnostic
    split
    · exact plain_diagnostic
    · exact plain_nil
  | lineNumbers plain cursor =>
    unfold drawNumber
    split
    · exact plain_padLeft plain_emptyLastLine width
    · -- whatever the number, its text is printable
      exact plain_padLeft (plain_toText _) width
  | breakpoints breakpoints styles =>
    unfold drawBreakpoint
    split
    · exact plain_breakpointGlyph _
    · exact plain_nil

/-! ### Cells -/

/-- A cell fills a column: it is named for it, and its text is plain and as long as the column is
wide. -/
structure Cell.Fills (c : Column) (cell : Cell) : Prop where
  column : cell.column = c.name
  plain : Plain cell.text
  units : cell.text.length = c.width

/-- A bound column of the editor draws cells that fill it. -/
theorem Column.BoundAs.fills {scene : Scene} {c : Column} {b : BoundColumn} {kind : GutterKind}
    (h : c.BoundAs scene b) (hkind : c.gutter = .builtin kind) (base : Style) (line : Number)
    (selected : Bool) : Cell.Fills c (b.cell base line selected) := by
  obtain ⟨rfl, hbind⟩ := h
  rw [hkind] at hbind
  have hplain := GutterKind.plain_bind hbind line selected
  exact ⟨rfl, plain_fit hplain _, length_fit_plain hplain _⟩

/-- The cells of a row fill the columns one by one. -/
theorem fills_cells {scene : Scene} {columns : List Column} {bound : List BoundColumn}
    (hcolumns : ∀ c ∈ columns, ∃ kind, c.gutter = .builtin kind)
    (h : List.Forall₂ (Column.BoundAs scene) columns bound) (base : Style) (line : Number)
    (selected : Bool) :
    List.Forall₂ Cell.Fills columns (bound.map (BoundColumn.cell base line selected)) := by
  induction h with
  | nil => exact .nil
  | cons hb _ ih =>
    obtain ⟨⟨kind, hkind⟩, hrest⟩ := List.forall_mem_cons.mp hcolumns
    exact .cons (hb.fills hkind base line selected) (ih hrest)

/-! ### Rows -/

/-- A row is aligned with the columns: it has one cell for each, in their order and of their
widths, counted in units and in cells, and its text is as wide as they are together. -/
structure Row.Aligned (columns : List Column) (row : Row) : Prop where
  names : row.cells.map Cell.column = columns.map Column.name
  cellUnits : (row.cells.map fun cell => cell.text.length) = columns.map Column.width
  cellWidths : (row.cells.map fun cell => cell.text.displayWidth) = columns.map Column.width
  units : row.text.length = total Column.width columns
  width : row.text.displayWidth = total Column.width columns

section

variable {columns : List Column} {cells : List Cell}

/-- What is the same for a column and each cell that fills it is the same all along. -/
theorem map_eq_of_fills {α : Type} {f : Cell → α} {g : Column → α}
    (hfg : ∀ c cell, Cell.Fills c cell → f cell = g c) (h : List.Forall₂ Cell.Fills columns cells) :
    cells.map f = columns.map g := by
  induction h with
  | nil => rfl
  | cons hcell _ ih => rw [List.map_cons, List.map_cons, hfg _ _ hcell, ih]

theorem plain_of_fills (h : List.Forall₂ Cell.Fills columns cells) :
    Plain (cells.flatMap Cell.text) := by
  induction h with
  | nil => exact plain_nil
  | cons hcell _ ih =>
    rw [List.flatMap_cons]
    exact plain_append hcell.plain ih

theorem length_of_fills (h : List.Forall₂ Cell.Fills columns cells) :
    (cells.flatMap Cell.text).length = total Column.width columns := by
  induction h with
  | nil => rfl
  | cons hcell _ ih => rw [List.flatMap_cons, List.length_append, hcell.units, ih, total_cons]

/-- A row of cells that fill the columns is aligned with them. -/
theorem Row.aligned_of_fills {row : Row} (h : List.Forall₂ Cell.Fills columns row.cells)
    (htext : row.text = row.cells.flatMap Cell.text) : row.Aligned columns := by
  have hplain : Plain row.text := htext ▸ plain_of_fills h
  have hunits : row.text.length = total Column.width columns := htext ▸ length_of_fills h
  refine ⟨?_, ?_, ?_, hunits, ?_⟩
  · exact map_eq_of_fills (fun _ _ hcell => hcell.column) h
  · exact map_eq_of_fills (fun _ _ hcell => hcell.units) h
  · refine map_eq_of_fills (fun _ _ hcell => ?_) h
    rw [displayWidth_plain hcell.plain, hcell.units]
  · rw [displayWidth_plain hplain, hunits]

end

/-! ### Frames -/

namespace Columns

/-- Columns that a host can arrive at with the gutters of the editor. -/
inductive Reachable : Columns → Prop
  | empty : Reachable {}
  | ofConfig {config : Config} {cs : Columns} (h : ofConfig config = .ok cs) : Reachable cs
  | add {cs cs' : Columns} {name : Text} {kind : GutterKind} {width : Number}
    (hcs : Reachable cs) (h : cs.add name (.builtin kind) width = .ok cs') : Reachable cs'
  | remove {cs : Columns} (hcs : Reachable cs) (name : Text) : Reachable (cs.remove name)

variable {cs cs' : Columns}

theorem Builtin.add {name : Text} {kind : GutterKind} {width : Number} (hcs : cs.Builtin)
    (h : cs.add name (.builtin kind) width = .ok cs') : cs'.Builtin := by
  unfold Columns.add at h
  split at h
  · obtain rfl := Except.ok.inj h
    intro c hc
    rcases List.mem_append.mp hc with hc | hc
    · exact hcs c hc
    · obtain rfl := List.mem_singleton.mp hc
      exact ⟨kind, rfl⟩
  · cases h

theorem Builtin.addBuiltins {entries : List (GutterKind × Number)} (hcs : cs.Builtin)
    (h : cs.addBuiltins entries = .ok cs') : cs'.Builtin := by
  induction entries generalizing cs with
  | nil =>
    obtain rfl := Except.ok.inj h
    exact hcs
  | cons entry rest ih =>
    obtain ⟨kind, width⟩ := entry
    obtain ⟨next, hnext, hrest⟩ := exists_of_bind_eq_ok h
    exact ih (hcs.add hnext) hrest

theorem Reachable.builtin (h : cs.Reachable) : cs.Builtin := by
  induction h with
  | empty => exact nofun
  | ofConfig h =>
    have hempty : Builtin {} := nofun
    exact hempty.addBuiltins h
  | add _ h ih => exact ih.add h
  | remove _ name ih => exact fun c hc => ih c (List.mem_of_mem_filter hc)

/-- **Every row of a frame is aligned with its columns**, and the frame is as wide as its rows.
The widths are added up in binary64, which is exact up to `Number.wholeLimit`, and no text has more
units than that. -/
theorem render_aligned (hcs : cs.Reachable) {scene : Scene} {frame : Frame}
    (h : cs.render scene = .ok frame) :
    frame.width = cs.totalWidth ∧
      ∀ row ∈ frame.rows, row.Aligned cs.columns ∧
        (row.text.length ≤ Number.wholeLimit → frame.width = (row.text.length : Number)) := by
  obtain ⟨bound, hbound, hwidth, hrows⟩ := render_eq_ok.mp h
  refine ⟨hwidth, ?_⟩
  intro row hrow
  rw [hrows] at hrow
  obtain ⟨line, -, rfl⟩ := List.mem_map.mp hrow
  have haligned : Row.Aligned cs.columns
      (drawRow scene.baseStyle scene.cursorLines bound line) :=
    Row.aligned_of_fills (fills_cells hcs.builtin hbound _ _ _) rfl
  refine ⟨haligned, ?_⟩
  -- the text is as long as the widths together, so these add up exactly
  intro hlength
  rw [haligned.units] at hlength ⊢
  exact hwidth.trans (totalWidth_eq hlength)

/-- Line numbers in a single cell. -/
def narrow : Columns where
  columns := [⟨GutterKind.lineNumbers.text, .builtin .lineNumbers, 1, Nat.one_pos⟩]

/-- The tenth and the eleventh line of a document of blank lines. -/
def twoDigitScene : Scene :=
  { Sample.scene .absolute with
    doc := Document.create (some Sample.path) (List.replicate 12 lineFeed)
    view := ⟨1, 9, 2, Nat.two_pos⟩ }

/-- Numbers of two digits are cut to their column of one cell, and the rows stay aligned. -/
theorem render_aligned_narrow :
    narrow.Reachable ∧ ∃ frame, narrow.render twoDigitScene = .ok frame ∧ frame.rows.length = 2 ∧
      ∀ row ∈ frame.rows, row.Aligned narrow.columns ∧
        row.text.length ≤ Number.wholeLimit ∧ frame.width = (row.text.length : Number) := by
  have hnarrow : narrow.Reachable :=
    Reachable.add .empty (show add {} GutterKind.lineNumbers.text _ 1 = .ok narrow from rfl)
  refine ⟨hnarrow, ?_⟩
  obtain ⟨frame, h⟩ : ∃ frame, narrow.render twoDigitScene = .ok frame :=
    exists_eq_ok (by decide +kernel)
  obtain ⟨bound, -, -, hrows⟩ := render_eq_ok.mp h
  refine ⟨frame, h, ?_, ?_⟩
  · rw [hrows, List.length_map]
    decide +kernel
  · intro row hrow
    obtain ⟨haligned, hwidth⟩ := (render_aligned hnarrow h).2 row hrow
    have hlength : row.text.length ≤ Number.wholeLimit := by
      rw [haligned.units]
      decide
    exact ⟨haligned, hlength, hwidth hlength⟩

end Columns

end EditorGutter
