import EditorGutter.Proofs.Gutter.Binding
import EditorGutter.Sample

/-!
Frames of columns side by side.

Columns are bound one after the other, and a row is what its columns draw by themselves; so the
frame of some columns followed by others is made of the two separate frames
(`Columns.render_append`): the rows of each line are joined, the style being that of the left row if
a gutter there returned one.  The main result (`Columns.columns_compose`) adds what follows for
single columns: one that is added or removed leaves the cells of all others alone, and each cell
holds the text of its own call.

Widths are added up in binary64 from the left, so the width of the whole is the sum of the two
widths as long as the columns together are no wider than `Number.wholeLimit`, and need not be
beyond (`Columns.width_append_ne`).
-/
namespace EditorGutter

open Text

variable {scene : Scene} {columns : List Column} {bound bound' : List BoundColumn}

/-! ### Bound columns -/

/-- Columns are bound one part after the other. -/
theorem bindColumns_append (scene : Scene) (columns columns' : List Column) :
    bindColumns scene (columns ++ columns') =
      (bindColumns scene columns).bind fun bound =>
        (bindColumns scene columns').bind fun bound' => .ok (bound ++ bound') := by
  induction columns with
  | nil =>
    show bindColumns scene columns' = (bindColumns scene columns').bind fun bound' => .ok bound'
    rcases bindColumns scene columns' with e | bound'
    · rfl
    · rfl
  | cons c rest ih =>
    rw [List.cons_append, bindColumns_cons, bindColumns_cons, ih]
    rcases c.gutter.bind scene c.width with e | draw
    · rfl
    · rcases bindColumns scene rest with e | bound
      · rfl
      · rcases bindColumns scene columns' with e | bound'
        · rfl
        · rfl

/-- Leaving out columns leaves out what they are bound to. -/
theorem boundAs_filter (p : Column → Bool) (h : List.Forall₂ (Column.BoundAs scene) columns bound) :
    List.Forall₂ (Column.BoundAs scene) (columns.filter p)
      (bound.filter fun b => p b.column) := by
  induction h with
  | nil => exact .nil
  | @cons c b _ _ hb _ ih =>
    rw [List.filter_cons, List.filter_cons, hb.1]
    split
    · exact .cons hb ih
    · exact ih

/-! ### Rows side by side -/

/-- Two rows of a line side by side, and whether the style is that of the left one. -/
def Row.beside (styled : Bool) (l r : Row) : Row where
  line := l.line
  selected := l.selected
  cells := l.cells ++ r.cells
  text := l.text ++ r.text
  style := if styled then l.style else r.style

/-- Whether a gutter of some columns returns a style on a line. -/
def Columns.stylesOn (cs : Columns) (scene : Scene) (line : Number) (selected : Bool) : Bool :=
  cs.columns.any fun c =>
    match c.gutter.bind scene c.width with
    | .ok draw => (draw line selected).style.isSome
    | .error _ => false

/-- The first style of a row is there if some column returns one. -/
theorem stylesOn_eq {cs : Columns} (h : List.Forall₂ (Column.BoundAs scene) cs.columns bound)
    (line : Number) (selected : Bool) :
    cs.stylesOn scene line selected =
      (bound.findSome? fun b => (b.draw line selected).style).isSome := by
  unfold Columns.stylesOn
  generalize cs.columns = columns at h
  induction h with
  | nil => rfl
  | @cons c b _ _ hb _ ih =>
    rw [List.any_cons, ih, hb.2, List.findSome?_cons]
    show ((b.draw line selected).style.isSome || _) = _
    rcases (b.draw line selected).style with - | style
    · rfl
    · rfl

/-- The row of columns followed by others is the two rows side by side. -/
theorem drawRow_append (base : Style) (cursorLines : List Nat) (bound bound' : List BoundColumn)
    (line : Number) :
    let l := drawRow base cursorLines bound line
    drawRow base cursorLines (bound ++ bound') line =
      l.beside (bound.findSome? fun b => (b.draw line l.selected).style).isSome
        (drawRow base cursorLines bound' line) := by
  have hstyle : ∀ first second : Option Style,
      overBase base (first.or second) =
        if first.isSome then overBase base first else overBase base second := by
    intro first second
    rcases first with - | style
    · rfl
    · rfl
  simp only [drawRow, Row.beside, List.map_append, List.flatMap_append, List.findSome?_append,
    hstyle]
  rfl

/-- What relates the rows of two lists of bound columns line by line relates them all. -/
theorem forall₂_drawRow {R : Row → Row → Prop} {base : Style} {cursorLines : List Nat}
    (h : ∀ line, R (drawRow base cursorLines bound line) (drawRow base cursorLines bound' line))
    (lines : List Number) :
    List.Forall₂ R (lines.map (drawRow base cursorLines bound))
      (lines.map (drawRow base cursorLines bound')) := by
  rw [List.forall₂_map_left_iff, List.forall₂_map_right_iff]
  exact List.forall₂_same.mpr fun line _ => h line

/-- A row with one more cell at its right. -/
def Row.Extends (l r : Row) : Prop := r.line = l.line ∧ ∃ cell, r.cells = l.cells ++ [cell]

/-- A row without the cells of a name. -/
def Row.Leaves (name : Text) (l r : Row) : Prop :=
  r.line = l.line ∧ r.cells = l.cells.filter fun cell => cell.column ≠ name

/-- A cell holds what its gutter writes to an empty output, and shows it in the style that this
call returns. -/
def Cell.Own (scene : Scene) (row : Row) (c : Column) (cell : Cell) : Prop :=
  ∃ draw, c.gutter.bind scene c.width = .ok draw ∧
    let (style, out) := LineRenderer.call draw row.line row.selected {}
    cell =
      { column := c.name, text := fit c.width out.text, style := overBase scene.baseStyle style }

/-! ### Frames side by side -/

namespace Columns

/-- The columns with others at their right. -/
def append (left right : Columns) : Columns := ⟨left.columns ++ right.columns⟩

/-- The frames of some columns and of others at their right as one; the widths are added up from
the left. -/
def joined (left right : Columns) (scene : Scene) (f g : Frame) : Frame where
  width := right.columns.foldl (fun sum c => sum + (c.width : Number)) f.width
  rows := List.zipWith (fun l r => l.beside (left.stylesOn scene l.line l.selected) r) f.rows g.rows

variable {cs left right : Columns} {f g : Frame}

/-- The rows of a frame stand for the visible lines, and are flagged where a cursor is. -/
theorem rows_of_render (h : cs.render scene = .ok f) :
    f.rows.map Row.line = scene.visibleLines ∧
      f.rows.map Row.selected =
        scene.visibleLines.map fun line =>
          scene.cursorLines.any fun (l : Nat) => line = (l : Number) := by
  obtain ⟨bound, -, -, hrows⟩ := render_eq_ok.mp h
  rw [hrows, List.map_map, List.map_map]
  exact ⟨List.map_id' _, rfl⟩

/-- **Columns followed by others have the fault of the first that fails, or else the two frames
side by side.** -/
theorem render_append (left right : Columns) (scene : Scene) :
    (left.append right).render scene =
      (left.render scene).bind fun f =>
        (right.render scene).bind fun g => .ok (left.joined right scene f g) := by
  rw [render_eq, render_eq left, render_eq right, append, bindColumns_append]
  rcases hleft : bindColumns scene left.columns with e | bound
  · rfl
  rcases bindColumns scene right.columns with e | bound'
  · rfl
  have hstyled := stylesOn_eq (bindColumns_eq_ok.mp hleft)
  show Except.ok (Frame.mk _ _) = Except.ok (Frame.mk _ _)
  congr 2
  · -- one sum from the left, cut in two
    exact List.foldl_append
  · rw [List.zipWith_map, List.zipWith_self]
    refine List.map_congr_left fun line _ => ?_
    rw [drawRow_append, hstyled]
    rfl

/-- Widths that add up exactly add up side by side. -/
theorem width_joined (hf : left.render scene = .ok f) (hg : right.render scene = .ok g)
    (h : total Column.width (left.append right).columns ≤ Number.wholeLimit) :
    (left.joined right scene f g).width = f.width + g.width := by
  have happend : total Column.width (left.append right).columns =
      total Column.width left.columns + total Column.width right.columns := total_append _ _ _
  obtain ⟨-, -, hfwidth, -⟩ := render_eq_ok.mp hf
  obtain ⟨-, -, hgwidth, -⟩ := render_eq_ok.mp hg
  rw [happend] at h
  have hleft : left.totalWidth = ((total Column.width left.columns : Nat) : Number) :=
    totalWidth_eq (by omega)
  have hright : right.totalWidth = ((total Column.width right.columns : Nat) : Number) :=
    totalWidth_eq (by omega)
  show right.columns.foldl _ f.width = _
  rw [hfwidth, hgwidth, hleft, hright, foldl_width h, Number.add_natCast h]

/-- A column that is added leaves the cells of the others alone. -/
theorem rows_add {name : Text} {gutter : Gutter} {width : Number} {more : Columns}
    (hadd : cs.add name gutter width = .ok more) (hf : cs.render scene = .ok f)
    (hg : more.render scene = .ok g) : List.Forall₂ Row.Extends f.rows g.rows := by
  unfold add at hadd
  split at hadd
  · next n n_pos _ =>
    obtain rfl := Except.ok.inj hadd
    obtain ⟨bound, hbound, -, hrows⟩ := render_eq_ok.mp hf
    obtain ⟨bound', hbound', -, hrows'⟩ := render_eq_ok.mp hg
    -- the columns that were there are bound as before, and the new one after them
    have hsplit := bindColumns_append scene cs.columns [⟨name, gutter, n, n_pos⟩]
    rw [bindColumns_eq_ok.mpr hbound', bindColumns_eq_ok.mpr hbound] at hsplit
    obtain ⟨last, hlast, hsplit⟩ := exists_of_bind_eq_ok (x := bindColumns scene _) hsplit.symm
    obtain rfl := Except.ok.inj hsplit
    obtain ⟨b, _, -, hnil, rfl⟩ := List.forall₂_cons_left_iff.mp (bindColumns_eq_ok.mp hlast)
    obtain rfl := List.forall₂_nil_left_iff.mp hnil
    rw [hrows, hrows']
    refine forall₂_drawRow (fun line => ?_) _
    rw [drawRow_append]
    exact ⟨rfl, _, rfl⟩
  · cases hadd

/-- Columns that are removed take their cells with them and leave those of the others alone. -/
theorem exists_render_remove (name : Text) (hf : cs.render scene = .ok f) :
    ∃ g, (cs.remove name).render scene = .ok g ∧ List.Forall₂ (Row.Leaves name) f.rows g.rows := by
  obtain ⟨bound, hbound, -, hrows⟩ := render_eq_ok.mp hf
  refine ⟨⟨_, _⟩, render_eq_ok.mpr ⟨_, boundAs_filter _ hbound, rfl, rfl⟩, ?_⟩
  rw [hrows]
  refine forall₂_drawRow (fun line => ⟨rfl, ?_⟩) _
  -- a cell is named for its column
  show List.map _ (bound.filter _) = (bound.map _).filter _
  rw [List.filter_map]
  rfl

/-- Each cell of a frame holds the text of its own call. -/
theorem own_cells (hf : cs.render scene = .ok f) :
    ∀ row ∈ f.rows, List.Forall₂ (Cell.Own scene row) cs.columns row.cells := by
  obtain ⟨bound, hbound, -, hrows⟩ := render_eq_ok.mp hf
  intro row hrow
  rw [hrows] at hrow
  obtain ⟨line, -, rfl⟩ := List.mem_map.mp hrow
  show List.Forall₂ _ cs.columns (bound.map _)
  rw [List.forall₂_map_right_iff]
  refine hbound.imp ?_
  rintro c b ⟨rfl, hbind⟩
  exact ⟨b.draw, hbind, rfl⟩

/-- **Columns compose**: rendering some columns followed by others has the fault of the first part
that fails, and otherwise the two frames side by side. -/
theorem columns_compose (left right : Columns) (scene : Scene) :
    (left.append right).render scene =
      ((left.render scene).bind fun f =>
        (right.render scene).bind fun g => .ok (left.joined right scene f g)) ∧
    -- the two frames have a row for each visible line, flagged alike, and exact widths add up
    (∀ f g, left.render scene = .ok f → right.render scene = .ok g →
      f.rows.map Row.line = scene.visibleLines ∧ g.rows.map Row.line = scene.visibleLines ∧
        f.rows.map Row.selected = g.rows.map Row.selected ∧
        (total Column.width (left.append right).columns ≤ Number.wholeLimit →
          (left.joined right scene f g).width = f.width + g.width)) ∧
    -- a column that is added changes no cell of the others
    (∀ name gutter width more, left.add name gutter width = .ok more →
      ∀ f g, left.render scene = .ok f → more.render scene = .ok g →
        List.Forall₂ Row.Extends f.rows g.rows) ∧
    -- nor do columns that are removed
    (∀ name f, left.render scene = .ok f →
      ∃ g, (left.remove name).render scene = .ok g ∧
        List.Forall₂ (Row.Leaves name) f.rows g.rows) ∧
    -- no text of one call reaches another
    (∀ f, left.render scene = .ok f →
      ∀ row ∈ f.rows, List.Forall₂ (Cell.Own scene row) left.columns row.cells) := by
  refine ⟨render_append left right scene, ?_, ?_, ?_, ?_⟩
  · intro f g hf hg
    obtain ⟨hlines, hselected⟩ := rows_of_render hf
    obtain ⟨hlines', hselected'⟩ := rows_of_render hg
    exact ⟨hlines, hlines', hselected.trans hselected'.symm, width_joined hf hg⟩
  · intro name gutter width more hadd f g hf hg
    exact rows_add hadd hf hg
  · intro name f hf
    exact exists_render_remove name hf
  · intro f hf
    exact own_cells hf

/-- Diagnostics, and an arrow on the lines of a cursor, which a host draws. -/
def withArrow : Columns where
  columns :=
    [⟨GutterKind.diagnostics.text, .builtin .diagnostics, 1, Nat.one_pos⟩,
     ⟨ofString "arrow", .custom fun _ _ => .ok fun _ selected =>
        if selected then { text := ofString "=>", style := some Style.empty } else {}, 1,
      Nat.one_pos⟩]

/-- Line numbers at the right of the arrow have the frame that they have by themselves, and a
column of breakpoints can be added there or the arrow be removed. -/
theorem columns_compose_sample :
    let right := oneEach 2 Nat.two_pos
    let scene := Sample.scene .absolute
    ∃ f g more h,
      withArrow.render scene = .ok f ∧ right.render scene = .ok g ∧
        (withArrow.append right).render scene = .ok (withArrow.joined right scene f g) ∧
        total Column.width (withArrow.append right).columns ≤ Number.wholeLimit ∧
        (withArrow.joined right scene f g).width = f.width + g.width ∧
        withArrow.add (ofString "more") (.builtin .breakpoints) 3 = .ok more ∧
        more.render scene = .ok h ∧ List.Forall₂ Row.Extends f.rows h.rows ∧
        (∃ g, (withArrow.remove (ofString "arrow")).render scene = .ok g ∧
          List.Forall₂ (Row.Leaves (ofString "arrow")) f.rows g.rows) ∧
        ∀ row ∈ f.rows, List.Forall₂ (Cell.Own scene row) withArrow.columns row.cells := by
  intro right scene
  obtain ⟨f, hf⟩ : ∃ f, withArrow.render scene = .ok f := exists_eq_ok (by decide +kernel)
  obtain ⟨g, hg⟩ : ∃ g, right.render scene = .ok g := exists_eq_ok (by decide +kernel)
  obtain ⟨more, hmore⟩ : ∃ more,
      withArrow.add (ofString "more") (.builtin .breakpoints) 3 = .ok more := ⟨_, rfl⟩
  obtain ⟨h, hh⟩ : ∃ h, more.render scene = .ok h := by
    obtain rfl := Except.ok.inj hmore
    exact exists_eq_ok (by decide +kernel)
  have hwidth : total Column.width (withArrow.append right).columns ≤ Number.wholeLimit := by decide
  obtain ⟨happend, hjoined, hadd, hremove, hown⟩ := columns_compose withArrow right scene
  rw [hf, hg] at happend
  exact ⟨f, g, more, h, hf, hg, happend, hwidth, (hjoined f g hf hg).2.2.2 hwidth, hmore, hh,
    hadd _ _ _ more hmore f h hf hh, hremove _ f hf, hown f hf⟩

/-- A column of diagnostics. -/
def ofWidth (width : Nat) (width_pos : 0 < width) : Column :=
  ⟨GutterKind.diagnostics.text, .builtin .diagnostics, width, width_pos⟩

/-- The sample scene scrolled past its end. -/
def pastEnd : Scene := (Sample.scene .absolute).through ⟨1, 100, 1, Nat.one_pos⟩

/-- A column of `2 ^ 53` cells absorbs each of two single cells at its right, which by themselves
make two. -/
theorem width_append_ne :
    let left : Columns := ⟨[ofWidth Number.wholeLimit (by decide)]⟩
    let right : Columns := ⟨[ofWidth 1 Nat.one_pos, ofWidth 1 Nat.one_pos]⟩
    ∃ f g h, left.render pastEnd = .ok f ∧ right.render pastEnd = .ok g ∧
      (left.append right).render pastEnd = .ok h ∧ h.width ≠ f.width + g.width := by
  intro left right
  obtain ⟨f, hf⟩ : ∃ f, left.render pastEnd = .ok f := exists_eq_ok (by decide +kernel)
  obtain ⟨g, hg⟩ : ∃ g, right.render pastEnd = .ok g := exists_eq_ok (by decide +kernel)
  obtain ⟨h, hh⟩ : ∃ h, (left.append right).render pastEnd = .ok h :=
    exists_eq_ok (by decide +kernel)
  obtain ⟨-, -, hfwidth, -⟩ := render_eq_ok.mp hf
  obtain ⟨-, -, hgwidth, -⟩ := render_eq_ok.mp hg
  obtain ⟨-, -, hhwidth, -⟩ := render_eq_ok.mp hh
  refine ⟨f, g, h, hf, hg, hh, ?_⟩
  rw [hfwidth, hgwidth, hhwidth]
  decide +kernel

end Columns

end EditorGutter
