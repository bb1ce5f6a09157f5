import EditorGutter.Proofs.Gutter.Lookups
import EditorGutter.Proofs.Gutter.Rows
import Mathlib.Data.List.Forall2

/-!
How columns are bound and frames drawn, in one lemma each.

Binding columns is pointwise (`bindColumns_eq_ok`), and it fails with the fault of the first
column that cannot be bound (`bindColumns_eq_error`).  Rendering fails only there
(`render_eq_error`); a frame has the row of each visible line in turn (`render_eq_ok`), and two
lists of bound columns that draw alike on a line draw the same row of it (`drawRow_congr`).
-/
namespace EditorGutter

variable {scene : Scene} {columns : List Column} {bound bound' : List BoundColumn}
variable {fault : Fault}

/-! ### Binding columns -/

/-- A bound column is a column of the given ones with what its gutter draws. -/
def Column.BoundAs (scene : Scene) (c : Column) (b : BoundColumn) : Prop :=
  b.column = c ∧ c.gutter.bind scene c.width = .ok b.draw

/-- The gutter of a column can be bound. -/
def Column.Bindable (scene : Scene) (c : Column) : Prop :=
  ∃ draw, c.gutter.bind scene c.width = .ok draw

theorem bindColumns_cons (scene : Scene) (c : Column) (rest : List Column) :
    bindColumns scene (c :: rest) =
      (c.gutter.bind scene c.width).bind fun draw =>
        (bindColumns scene rest).bind fun bound => .ok (⟨c, draw⟩ :: bound) := rfl

/-- Columns are bound one by one. -/
theorem bindColumns_eq_ok :
    bindColumns scene columns = .ok bound ↔
      List.Forall₂ (Column.BoundAs scene) columns bound := by
  induction columns generalizing bound with
  | nil =>
    rw [List.forall₂_nil_left_iff]
    exact ⟨fun h => (Except.ok.inj h).symm, fun h => by rw [h]; rfl⟩
  | cons c rest ih =>
    rw [bindColumns_cons]
    constructor
    · intro h
      obtain ⟨draw, hc, h⟩ := exists_of_bind_eq_ok h
      obtain ⟨bs, hrest, h⟩ := exists_of_bind_eq_ok h
      obtain rfl := Except.ok.inj h
      exact .cons ⟨rfl, hc⟩ (ih.mp hrest)
    · intro h
      obtain ⟨b, bs, ⟨rfl, hb⟩, hbs, rfl⟩ := List.forall₂_cons_left_iff.mp h
      rw [hb, ih.mpr hbs]
      rfl

/-- Every bound column is one of the columns that were to be bound. -/
theorem exists_boundAs {b : BoundColumn} (h : List.Forall₂ (Column.BoundAs scene) columns bound)
    (hb : b ∈ bound) : ∃ c ∈ columns, c.BoundAs scene b := by
  induction h with
  | nil => cases hb
  | cons hc _ ih =>
    rcases List.mem_cons.mp hb with rfl | hb
    · exact ⟨_, List.mem_cons_self, hc⟩
    · obtain ⟨c, hmem, hbound⟩ := ih hb
      exact ⟨c, List.mem_cons_of_mem _ hmem, hbound⟩

/-- Columns that can all be bound are bound together. -/
theorem exists_bindColumns (h : ∀ c ∈ columns, c.Bindable scene) :
    ∃ bound, bindColumns scene columns = .ok bound := by
  induction columns with
  | nil => exact ⟨[], rfl⟩
  | cons c rest ih =>
    obtain ⟨⟨draw, hc⟩, hrest⟩ := List.forall_mem_cons.mp h
    obtain ⟨bound, hbound⟩ := ih hrest
    exact ⟨⟨c, draw⟩ :: bound, by rw [bindColumns_cons, hc, hbound]; rfl⟩

/-- A column that cannot be bound fails the columns, if those before it can be. -/
theorem bindColumns_eq_error_of_bindable {before after : List Column} {c : Column}
    (hbefore : ∀ d ∈ before, d.Bindable scene)
    (hc : c.gutter.bind scene c.width = .error fault) :
    bindColumns scene (before ++ c :: after) = .error fault := by
  induction before with
  | nil =>
    rw [List.nil_append, bindColumns_cons, hc]
    rfl
  | cons d before ih =>
    obtain ⟨⟨draw, hd⟩, hrest⟩ := List.forall_mem_cons.mp hbefore
    rw [List.cons_append, bindColumns_cons, hd, ih hrest]
    rfl

/-- Columns that fail have a first one that cannot be bound. -/
theorem exists_of_bindColumns_eq_error (h : bindColumns scene columns = .error fault) :
    ∃ before c after, columns = before ++ c :: after ∧
      (∀ d ∈ before, d.Bindable scene) ∧
      c.gutter.bind scene c.width = .error fault := by
  induction columns with
  | nil => cases h
  | cons c rest ih =>
    rw [bindColumns_cons] at h
    rcases hc : c.gutter.bind scene c.width with e | draw
    · -- the head itself
      rw [hc] at h
      obtain rfl := Except.error.inj h
      exact ⟨[], c, rest, rfl, nofun, hc⟩
    · rcases hrest : bindColumns scene rest with e | bs
      · -- the head is bound, so the fault comes from the rest
        rw [hc, hrest] at h
        obtain rfl := Except.error.inj h
        obtain ⟨before, c', after, rfl, hbefore, hfault⟩ := ih hrest
        refine ⟨c :: before, c', after, rfl, ?_, hfault⟩
        exact List.forall_mem_cons.mpr ⟨⟨draw, hc⟩, hbefore⟩
      · rw [hc, hrest] at h
        cases h

/-- Columns fail exactly as the first of them that cannot be bound. -/
theorem bindColumns_eq_error :
    bindColumns scene columns = .error fault ↔
      ∃ before c after, columns = before ++ c :: after ∧
        (∀ d ∈ before, d.Bindable scene) ∧
        c.gutter.bind scene c.width = .error fault := by
  constructor
  · exact exists_of_bindColumns_eq_error
  · rintro ⟨before, c, after, rfl, hbefore, hc⟩
    exact bindColumns_eq_error_of_bindable hbefore hc

/-! ### Rows -/

/-- Two bound columns of the same column draw alike on a line. -/
def BoundColumn.AlikeOn (line : Number) (b b' : BoundColumn) : Prop :=
  b.column = b'.column ∧ ∀ selected, b.draw line selected = b'.draw line selected

theorem BoundColumn.AlikeOn.cell {line : Number} {b b' : BoundColumn}
    (h : b.AlikeOn line b') (base : Style) (selected : Bool) :
    b.cell base line selected = b'.cell base line selected := by
  obtain ⟨hcolumn, hdraw⟩ := h
  unfold BoundColumn.cell
  rw [hcolumn, hdraw]

/-- Columns that draw alike on a line draw the same row. -/
theorem drawRow_congr {line : Number} (base : Style) (cursorLines : List Nat)
    (h : List.Forall₂ (BoundColumn.AlikeOn line) bound bound') :
    drawRow base cursorLines bound line = drawRow base cursorLines bound' line := by
  have hcells : ∀ selected, bound.map (BoundColumn.cell base line selected) =
      bound'.map (BoundColumn.cell base line selected) := by
    intro selected
    induction h with
    | nil => rfl
    | cons hb _ ih => rw [List.map_cons, List.map_cons, hb.cell, ih]
  have hstyle : ∀ selected, (bound.findSome? fun b => (b.draw line selected).style) =
      bound'.findSome? fun b => (b.draw line selected).style := by
    intro selected
    clear hcells
    induction h with
    | nil => rfl
    | cons hb _ ih => rw [List.findSome?_cons, List.findSome?_cons, hb.2, ih]
  simp only [drawRow, hcells, hstyle]

/-! ### Frames -/

/-- The scene seen through another view. -/
def Scene.through (scene : Scene) (v : View) : Scene := { scene with view := v }

namespace Columns

variable {cs : Columns} {frame : Frame}

/-- All gutters are ones that come with the editor. -/
def Builtin (cs : Columns) : Prop := ∀ c ∈ cs.columns, ∃ kind, c.gutter = .builtin kind

/-- A column of one width for each gutter of the editor. -/
def oneEach (width : Nat) (width_pos : 0 < width) : Columns where
  columns := [GutterKind.diagnostics, .breakpoints, .lineNumbers].map fun kind =>
    ⟨kind.text, .builtin kind, width, width_pos⟩

theorem builtin_oneEach (width : Nat) (width_pos : 0 < width) :
    (oneEach width width_pos).Builtin := by
  intro c hc
  obtain ⟨kind, -, rfl⟩ := List.mem_map.mp hc
  exact ⟨kind, rfl⟩

/-- Rendering binds the columns, and draws the row of each visible line by itself. -/
theorem render_eq (cs : Columns) (scene : Scene) :
    cs.render scene =
      (bindColumns scene cs.columns).bind fun bound =>
        .ok {
          width := cs.totalWidth
          rows := scene.visibleLines.map (drawRow scene.baseStyle scene.cursorLines bound) } := by
  unfold render
  simp only [writeRows_eq]
  rfl

/-- A rendered frame has the rows of the visible lines in turn, drawn by the bound columns. -/
theorem render_eq_ok :
    cs.render scene = .ok frame ↔
      ∃ bound, List.Forall₂ (Column.BoundAs scene) cs.columns bound ∧
        frame.width = cs.totalWidth ∧
        frame.rows =
          scene.visibleLines.map (drawRow scene.baseStyle scene.cursorLines bound) := by
  simp only [← bindColumns_eq_ok]
  rw [render_eq]
  rcases bindColumns scene cs.columns with e | bound
  · constructor
    · intro h
      cases h
    · rintro ⟨bound, h, -⟩
      cases h
  · constructor
    · intro h
      obtain rfl := Except.ok.inj h
      exact ⟨bound, rfl, rfl, rfl⟩
    · rintro ⟨bound', h, hwidth, hrows⟩
      obtain rfl := Except.ok.inj h
      obtain ⟨width, rows⟩ := frame
      obtain rfl : width = cs.totalWidth := hwidth
      obtain rfl := hrows
      rfl

/-- Rendering fails only where binding does. -/
theorem render_eq_error :
    cs.render scene = .error fault ↔ bindColumns scene cs.columns = .error fault := by
  rw [render_eq]
  rcases bindColumns scene cs.columns with e | bound
  · exact ⟨fun h => congrArg _ (Except.error.inj h), fun h => congrArg _ (Except.error.inj h)⟩
  · exact ⟨nofun, nofun⟩

end Columns

end EditorGutter
