import EditorGutter.Proofs.Gutter.Binding
import EditorGutter.Proofs.Text.Fitting
import EditorGutter.Sample
import Mathlib.Data.List.Find

/-!
When rendering the gutters of the editor fails.

Which fault a column has is decided by its theme and by whether the document has a file
(`GutterKind.fault?`), and the first column with a fault decides that of the frame.  Nothing else
can fail: drawing and fitting are total, and widths ask for a count of blanks that can be had
(`Text.fitInto_natCast`).  The main result is `Columns.render_fails_iff`; the view, and the scopes
that only decorate, have no part in it.
-/
namespace EditorGutter

open Text

/-! ### The primary range -/

/-- Every selection of a document names its primary range by a count. -/
def Document.PrimaryByCount (doc : Document) : Prop :=
  ∀ view, ∃ i : Nat, (doc.selection view).primaryIndex = (i : Number)

/-- A primary index that is a count names a range. -/
theorem Selection.exists_primary? {s : Selection} {i : Nat}
    (hi : s.primaryIndex = (i : Number)) : ∃ r, s.primary? = some r := by
  have hlt : i < s.ranges.length := by
    have hnot := s.not_past
    rw [hi, Number.natCast_le_natCast] at hnot
    exact Nat.not_le.mp hnot
  refine ⟨s.ranges[i], ?_⟩
  rw [primary?, hi, Number.toNat?_natCast]
  exact List.getElem?_eq_getElem hlt

theorem Selection.exists_primaryCursorLine {s : Selection} {i : Nat}
    (hi : s.primaryIndex = (i : Number)) (b : Buffer) : ∃ l, s.primaryCursorLine b = .ok l := by
  obtain ⟨r, hr⟩ := exists_primary? hi
  rw [primaryCursorLine, hr]
  exact ⟨_, rfl⟩

/-! ### Columns -/

/-- The fault of binding a column with a gutter of the editor. -/
def Column.fault? (theme : Theme) (path : Option Text) (c : Column) : Option Fault :=
  match c.gutter with
  | .builtin kind => kind.fault? theme path
  | .custom _ => none

section

variable {scene : Scene} {c : Column}

theorem Column.faultOf_bind (hc : ∃ kind, c.gutter = .builtin kind)
    (hprimary : scene.doc.PrimaryByCount) :
    Fault.of? (c.gutter.bind scene c.width) = c.fault? scene.theme scene.doc.path := by
  obtain ⟨kind, hkind⟩ := hc
  obtain ⟨i, hi⟩ := hprimary scene.view.id
  rw [fault?, hkind]
  exact GutterKind.faultOf_bind scene c.width (Selection.exists_primaryCursorLine hi _)

theorem Column.bind_eq_error_iff (hc : ∃ kind, c.gutter = .builtin kind)
    (hprimary : scene.doc.PrimaryByCount) {fault : Fault} :
    c.gutter.bind scene c.width = .error fault ↔
      c.fault? scene.theme scene.doc.path = some fault := by
  rw [← faultOf_bind hc hprimary]
  exact Fault.of?_eq_some.symm

theorem Column.bindable_iff (hc : ∃ kind, c.gutter = .builtin kind)
    (hprimary : scene.doc.PrimaryByCount) :
    c.Bindable scene ↔ c.fault? scene.theme scene.doc.path = none := by
  rw [← faultOf_bind hc hprimary]
  exact Fault.of?_eq_none.symm

end

/-! ### Scopes that only decorate -/

/-- Two themes of one name have the same scopes, the gutter and the selected line number apart. -/
def Theme.SameRequired (theme theme' : Theme) : Prop :=
  theme'.name = theme.name ∧
    ∀ scope : Scope, scope ≠ .gutter → scope ≠ .lineNumberSelected →
      (theme'.style? scope.text).isNone = (theme.style? scope.text).isNone

theorem GutterKind.ne_of_mem_requiredScopes {kind : GutterKind} {scope : Scope}
    (h : scope ∈ kind.requiredScopes) : scope ≠ .gutter ∧ scope ≠ .lineNumberSelected := by
  cases kind <;> cases scope <;> simp_all [requiredScopes]

theorem GutterKind.fault?_congr {theme theme' : Theme} (h : theme.SameRequired theme')
    (kind : GutterKind) (path : Option Text) :
    kind.fault? theme' path = kind.fault? theme path := by
  obtain ⟨hname, hscopes⟩ := h
  have hfind : theme'.firstMissing? kind.requiredScopes =
      theme.firstMissing? kind.requiredScopes := by
    unfold Theme.firstMissing?
    apply List.find?_congr
    intro scope hscope
    obtain ⟨hgutter, hselected⟩ := ne_of_mem_requiredScopes hscope
    exact hscopes scope hgutter hselected
  unfold fault? Theme.lookupFault?
  rw [hfind, hname]

theorem Column.fault?_congr {theme theme' : Theme} (h : theme.SameRequired theme')
    (c : Column) (path : Option Text) : c.fault? theme' path = c.fault? theme path := by
  unfold fault?
  split
  · exact GutterKind.fault?_congr h _ path
  · rfl

/-! ### Fitting -/

/-- A cell holds what the gutter of its column draws on the line of its row, fitted into the width
of the column without a fault. -/
def Cell.Fitted (scene : Scene) (row : Row) (c : Column) (cell : Cell) : Prop :=
  ∃ draw, c.gutter.bind scene c.width = .ok draw ∧
    fitInto (c.width : Number) (draw row.line row.selected).text = .ok cell.text

/-! ### Frames -/

namespace Columns

/-- Some columns fail with a fault: the first of them that has one has this. -/
def FailsWith (cs : Columns) (theme : Theme) (path : Option Text) (fault : Fault) : Prop :=
  ∃ before c after, cs.columns = before ++ c :: after ∧
    (∀ d ∈ before, d.fault? theme path = none) ∧ c.fault? theme path = some fault

variable {cs : Columns} {scene : Scene} {fault : Fault}

theorem render_eq_error_iff (hcs : cs.Builtin) (scene : Scene)
    (hprimary : scene.doc.PrimaryByCount) :
    cs.render scene = .error fault ↔ cs.FailsWith scene.theme scene.doc.path fault := by
  rw [render_eq_error, bindColumns_eq_error]
  -- the columns are split in the same place, so the parts are compared one by one
  refine exists_congr fun before => exists_congr fun c => exists_congr fun after =>
    and_congr_right fun hsplit => ?_
  have hmem : ∀ d ∈ before ++ c :: after, ∃ kind, d.gutter = .builtin kind := hsplit ▸ hcs
  have hbefore : ∀ d ∈ before, ∃ kind, d.gutter = .builtin kind :=
    fun d hd => hmem d (List.mem_append_left _ hd)
  have hc : ∃ kind, c.gutter = .builtin kind :=
    hmem c (List.mem_append_right _ List.mem_cons_self)
  refine and_congr ?_ (Column.bind_eq_error_iff hc hprimary)
  exact forall₂_congr fun d hd => Column.bindable_iff (hbefore d hd) hprimary

theorem failsWith_congr {theme theme' : Theme} (h : theme.SameRequired theme')
    {path : Option Text} : cs.FailsWith theme' path fault ↔ cs.FailsWith theme path fault := by
  unfold FailsWith
  simp only [Column.fault?_congr h]

/-- Where no column has a fault there is a frame: a row for each visible line in turn, whose cells
hold what the gutters draw there, fitted into the widths of the columns. -/
theorem exists_render (hcs : cs.Builtin) (hprimary : scene.doc.PrimaryByCount)
    (h : ∀ c ∈ cs.columns, c.fault? scene.theme scene.doc.path = none) :
    ∃ frame, cs.render scene = .ok frame ∧ frame.rows.map Row.line = scene.visibleLines ∧
      ∀ row ∈ frame.rows, List.Forall₂ (Cell.Fitted scene row) cs.columns row.cells := by
  obtain ⟨bound, hbound⟩ := exists_bindColumns fun c hc =>
    (Column.bindable_iff (hcs c hc) hprimary).mpr (h c hc)
  have hpointwise := bindColumns_eq_ok.mp hbound
  refine ⟨⟨cs.totalWidth, scene.visibleLines.map (drawRow scene.baseStyle scene.cursorLines bound)⟩,
    render_eq_ok.mpr ⟨bound, hpointwise, rfl, rfl⟩, ?_, ?_⟩
  · show (List.map _ scene.visibleLines).map Row.line = scene.visibleLines
    rw [List.map_map]
    exact List.map_id' scene.visibleLines
  · intro row hrow
    obtain ⟨line, -, rfl⟩ := List.mem_map.mp hrow
    show List.Forall₂ _ cs.columns (bound.map _)
    rw [List.forall₂_map_right_iff]
    refine hpointwise.imp ?_
    rintro c b ⟨rfl, hbind⟩
    exact ⟨b.draw, hbind, fitInto_natCast _ _⟩

/-- **Rendering fails exactly as the first column that has a fault**, whichever lines are on
screen and whether or not the theme has the scopes that only decorate; otherwise there is a frame
with a row for each visible line in turn. -/
theorem render_fails_iff (hcs : cs.Builtin) (hprimary : scene.doc.PrimaryByCount) :
    -- binding a column has the fault of its gutter
    (∀ c ∈ cs.columns, ∀ fault,
      c.gutter.bind scene c.width = .error fault ↔
        c.fault? scene.theme scene.doc.path = some fault) ∧
    -- the first column with a fault decides
    (∀ fault, cs.render scene = .error fault ↔ cs.FailsWith scene.theme scene.doc.path fault) ∧
    -- the view has no part in it
    (∀ (v : View) fault,
      cs.render (scene.through v) = .error fault ↔ cs.render scene = .error fault) ∧
    -- nor have the scopes of the gutter and of the selected line number
    (∀ theme, scene.theme.SameRequired theme → ∀ fault,
      cs.render { scene with theme := theme } = .error fault ↔ cs.render scene = .error fault) ∧
    -- without a fault there is a frame
    ((∀ c ∈ cs.columns, c.fault? scene.theme scene.doc.path = none) →
      ∃ frame, cs.render scene = .ok frame ∧ frame.rows.map Row.line = scene.visibleLines ∧
        ∀ row ∈ frame.rows, List.Forall₂ (Cell.Fitted scene row) cs.columns row.cells) := by
  refine ⟨?_, ?_, ?_, ?_, ?_⟩
  · intro c hc fault
    exact Column.bind_eq_error_iff (hcs c hc) hprimary
  · intro fault
    exact render_eq_error_iff hcs scene hprimary
  · -- theme and path are those of the scene, whatever the view
    intro v fault
    rw [render_eq_error_iff hcs scene hprimary]
    exact render_eq_error_iff hcs (scene.through v) hprimary
  · intro theme htheme fault
    rw [render_eq_error_iff hcs scene hprimary, ← failsWith_congr htheme]
    exact render_eq_error_iff hcs { scene with theme := theme } hprimary
  · exact exists_render hcs hprimary

/-- The sample scene with a fresh document, backed by a file or not. -/
def freshScene (path : Option Text) : Scene :=
  { Sample.scene .absolute with doc := Document.create path Sample.source }

/-- Without a file the column of breakpoints cannot be bound, which fails the frame although the
column before it could be drawn; with a file there is a frame. -/
theorem render_fails_iff_fresh :
    (oneEach 2 Nat.two_pos).Builtin ∧ (∀ path, (freshScene path).doc.PrimaryByCount) ∧
      (oneEach 2 Nat.two_pos).render (freshScene none) = .error .missingDocumentPath ∧
      ∃ frame, (oneEach 2 Nat.two_pos).render (freshScene (some Sample.path)) = .ok frame := by
  have hcs := builtin_oneEach 2 Nat.two_pos
  have hprimary : ∀ path, (freshScene path).doc.PrimaryByCount := fun _ _ => ⟨0, rfl⟩
  refine ⟨hcs, hprimary, ?_, ?_⟩
  · obtain ⟨-, hfails, -⟩ := render_fails_iff hcs (hprimary none)
    refine (hfails _).mpr ⟨[_], _, [_], rfl, ?_, by decide +kernel⟩
    -- the column of diagnostics before it has all its styles
    intro d hd
    obtain rfl := List.mem_singleton.mp hd
    decide +kernel
  · obtain ⟨-, -, -, -, hframe⟩ := render_fails_iff hcs (hprimary (some Sample.path))
    have hnone : ∀ c ∈ (oneEach 2 Nat.two_pos).columns,
        c.fault? (freshScene (some Sample.path)).theme (some Sample.path) = none := by
      decide +kernel
    obtain ⟨frame, h, -⟩ := hframe hnone
    exact ⟨frame, h⟩

end Columns

end EditorGutter
