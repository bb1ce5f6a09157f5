import EditorGutter.Proofs.Gutter.Binding
import EditorGutter.Proofs.Gutter.LineNumbers
import EditorGutter.Sample

/-!
Scrolling does not change how a line looks.

A view enters a frame in three ways: by its identity, which selects the cursors; by the lines on
screen; and by its last line, which the line numbers treat specially.  The last of these turns out
to be a property of the document (`atUnnumbered_iff`), so two views of one identity draw alike
every line that both of them show (`Columns.alike_through`).  The main result
(`Columns.scroll_independent`) says so for any two geometries, and for a view before and after any
sequence of moves with whole arguments.
-/
namespace EditorGutter

variable {scene : Scene} {v w : View} {line : Number}

/-! ### Gutters -/

/-- A gutter of the editor draws a line in the same way through two views that both show it. -/
theorem GutterKind.alike_through {kind : GutterKind} {width : Nat} {draw draw' : LineRenderer}
    (hid : v.id = w.id) (hv : ∃ o, v.AtLine o) (hw : ∃ o, w.AtLine o)
    (hline : line ∈ v.visibleLines scene.doc.buffer)
    (hline' : line ∈ w.visibleLines scene.doc.buffer)
    (h : kind.bind (scene.through v) width = .ok draw)
    (h' : kind.bind (scene.through w) width = .ok draw') (selected : Bool) :
    draw line selected = draw' line selected := by
  cases kind with
  | diagnostics =>
    -- the view does not enter at all
    have hsame : bindDiagnostics (scene.through v) = bindDiagnostics (scene.through w) := rfl
    rw [Except.ok.inj (h.symm.trans (hsame.trans h'))]
  | breakpoints =>
    have hsame : bindBreakpoints (scene.through v) = bindBreakpoints (scene.through w) := rfl
    rw [Except.ok.inj (h.symm.trans (hsame.trans h'))]
  | lineNumbers =>
    obtain ⟨o, ho⟩ := hv
    obtain ⟨o', ho'⟩ := hw
    obtain ⟨plain, cursor, hplain, hcursor, hdraw⟩ :=
      bindLineNumbers_draw (scene.through v) ho h
    obtain ⟨plain', cursor', hplain', hcursor', hdraw'⟩ :=
      bindLineNumbers_draw (scene.through w) ho' h'
    obtain rfl : plain = plain' := Except.ok.inj (hplain.symm.trans hplain')
    obtain rfl : cursor = cursor' := by
      -- the cursor is that of the selection of the identity
      have hsame : (scene.doc.selection v.id).primaryCursorLine scene.doc.buffer =
          (scene.doc.selection w.id).primaryCursorLine scene.doc.buffer := by rw [hid]
      exact Except.ok.inj (hcursor.symm.trans (hsame.trans hcursor'))
    -- what is drawn on a line that both show is told from the document
    obtain ⟨l, rfl, -⟩ := (View.mem_visibleLines ho).mp hline
    rw [hdraw l hline selected, hdraw' l hline' selected]
    rfl

/-! ### Rows -/

/-- Bound for two views, the columns of the editor draw alike on a line that both show. -/
theorem bound_alike_through {columns : List Column} {bound bound' : List BoundColumn}
    (hcolumns : ∀ c ∈ columns, ∃ kind, c.gutter = .builtin kind)
    (hid : v.id = w.id) (hv : ∃ o, v.AtLine o) (hw : ∃ o, w.AtLine o)
    (hline : line ∈ v.visibleLines scene.doc.buffer)
    (hline' : line ∈ w.visibleLines scene.doc.buffer)
    (h : List.Forall₂ (Column.BoundAs (scene.through v)) columns bound)
    (h' : List.Forall₂ (Column.BoundAs (scene.through w)) columns bound') :
    List.Forall₂ (BoundColumn.AlikeOn line) bound bound' := by
  induction h generalizing bound' with
  | nil =>
    rw [List.forall₂_nil_left_iff.mp h']
    exact .nil
  | cons hb _ ih =>
    obtain ⟨b', bs', hb', hbs', rfl⟩ := List.forall₂_cons_left_iff.mp h'
    obtain ⟨⟨kind, hkind⟩, hrest⟩ := List.forall_mem_cons.mp hcolumns
    obtain ⟨hcolumn, hdraw⟩ := hb
    obtain ⟨hcolumn', hdraw'⟩ := hb'
    rw [hkind] at hdraw hdraw'
    refine .cons ⟨hcolumn.trans hcolumn'.symm, ?_⟩ (ih hrest hbs')
    exact GutterKind.alike_through hid hv hw hline hline' hdraw hdraw'

/-! ### Frames -/

/-- The rows of a frame that stand for a line. -/
def Frame.rowsOf (frame : Frame) (line : Number) : List Row :=
  frame.rows.filter fun row => row.line = line

/-- Two views show each line that is visible in both as the same single row. -/
def Columns.ShownAlike (cs : Columns) (scene : Scene) (v w : View) : Prop :=
  ∀ f g, cs.render (scene.through v) = .ok f → cs.render (scene.through w) = .ok g →
    ∀ line ∈ v.visibleLines scene.doc.buffer, line ∈ w.visibleLines scene.doc.buffer →
      ∃ row, f.rowsOf line = [row] ∧ g.rowsOf line = [row]

/-- A line on screen has one row in a frame. -/
theorem Frame.rowsOf_eq (scene : Scene) {frame : Frame} {bound : List BoundColumn} {o : Nat}
    (ho : scene.view.AtLine o) (hline : line ∈ scene.visibleLines)
    (hrows : frame.rows =
      scene.visibleLines.map (drawRow scene.baseStyle scene.cursorLines bound)) :
    frame.rowsOf line = [drawRow scene.baseStyle scene.cursorLines bound line] := by
  -- no line is shown twice, so the filter finds its row once
  have hnodup : scene.visibleLines.Nodup := View.nodup_visibleLines ho
  have hfilter : scene.visibleLines.filter (· == line) = [line] := by
    rw [List.filter_beq, List.count_eq_one_of_mem hnodup hline]
    rfl
  rw [rowsOf, hrows, List.filter_map]
  show List.map _ (scene.visibleLines.filter (· == line)) = _
  rw [hfilter]
  rfl

theorem Columns.alike_through {cs : Columns} (hcs : cs.Builtin) (hid : v.id = w.id)
    (hv : ∃ o, v.AtLine o) (hw : ∃ o, w.AtLine o) : cs.ShownAlike scene v w := by
  intro f g hf hg line hline hline'
  obtain ⟨bound, hbound, -, hrows⟩ := render_eq_ok.mp hf
  obtain ⟨bound', hbound', -, hrows'⟩ := render_eq_ok.mp hg
  have halike := bound_alike_through hcs hid hv hw hline hline' hbound hbound'
  obtain ⟨o, ho⟩ := hv
  obtain ⟨o', ho'⟩ := hw
  refine ⟨_, Frame.rowsOf_eq (scene.through v) ho hline hrows, ?_⟩
  rw [Frame.rowsOf_eq (scene.through w) ho' hline' hrows', drawRow_congr _ _ halike]
  -- what is left of the view is its identity
  have hcursors : (scene.through w).cursorLines = (scene.through v).cursorLines := by
    show (scene.doc.selection w.id).cursorLines _ = (scene.doc.selection v.id).cursorLines _
    rw [hid]
    rfl
  rw [hcursors]
  rfl

/-- **A line that stays on screen looks the same**, whatever two geometries a view has, and
however it is moved by whole arguments in between. -/
theorem Columns.scroll_independent {cs : Columns} (hcs : cs.Builtin) (scene : Scene) :
    (∀ v w : View, v.id = w.id → (∃ o, v.AtLine o) → (∃ o, w.AtLine o) →
      cs.ShownAlike scene v w) ∧
    ∀ v : View, v.InLines → ∀ moves : List View.Move, (∀ m ∈ moves, m.Whole) →
      cs.ShownAlike scene v (v.run moves) := by
  refine ⟨fun v w hid hv hw => alike_through hcs hid hv hw, ?_⟩
  intro v hv moves hmoves
  have hrun := hv.run hmoves
  exact alike_through hcs (v.run_id moves).symm hv.offset hrun.offset

/-- In the sample scene the sixth line looks the same as the last line on screen, after scrolling,
as it did before with the empty last line below it. -/
theorem Columns.scroll_independent_sample :
    (oneEach 2 Nat.two_pos).Builtin ∧ Sample.view.InLines ∧
      ∃ f g row,
        (oneEach 2 Nat.two_pos).render ((Sample.scene .absolute).through Sample.view) = .ok f ∧
        (oneEach 2 Nat.two_pos).render ((Sample.scene .absolute).through
          (Sample.view.run [.scrollTo 1, .resize 3, .ensureLineVisible 5])) = .ok g ∧
        f.rowsOf 5 = [row] ∧ g.rowsOf 5 = [row] := by
  have hcs := builtin_oneEach 2 Nat.two_pos
  have hview : Sample.view.InLines := ⟨⟨0, rfl⟩, Number.representable_natCast (by decide)⟩
  refine ⟨hcs, hview, ?_⟩
  obtain ⟨f, hf⟩ : ∃ f, (oneEach 2 Nat.two_pos).render
      ((Sample.scene .absolute).through Sample.view) = .ok f :=
    exists_eq_ok (by decide +kernel)
  obtain ⟨g, hg⟩ : ∃ g, (oneEach 2 Nat.two_pos).render ((Sample.scene .absolute).through
      (Sample.view.run [.scrollTo 1, .resize 3, .ensureLineVisible 5])) = .ok g :=
    exists_eq_ok (by decide +kernel)
  have hmoves : ∀ m ∈ [View.Move.scrollTo 1, .resize 3, .ensureLineVisible 5], m.Whole := by
    intro m hm
    simp only [List.mem_cons, List.not_mem_nil, or_false] at hm
    rcases hm with rfl | rfl | rfl
    · exact ⟨1, rfl, Number.representable_natCast (by decide)⟩
    · exact ⟨3, rfl, Number.representable_natCast (by decide)⟩
    · exact ⟨5, rfl, Number.representable_natCast (by decide)⟩
  obtain ⟨row, hrow, hrow'⟩ := (scroll_independent hcs (Sample.scene .absolute)).2 Sample.view hview
    _ hmoves f g hf hg 5 (by decide +kernel) (by decide +kernel)
  exact ⟨f, g, row, hf, hg, hrow, hrow'⟩

end EditorGutter
