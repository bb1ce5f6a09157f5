import EditorGutter.Proofs.Document.History
import EditorGutter.Proofs.Gutter.Binding
import EditorGutter.Proofs.Gutter.Marks
import Mathlib.Logic.Relation

/-!
What a frame cannot show.

A frame is drawn from much less than a scene holds.  Two scenes are alike (`Scene.Alike`) if they
have the same text, theme, focus, geometry, numbering and cursor lines, if both documents have a
file or neither has, and if on each visible line the first diagnostic has the same severity and the
first breakpoint of the file the same look.  Bound to alike scenes, a gutter of the editor fails
with the same fault or draws the visible lines alike (`GutterKind.bind_agree`), and so do columns
(`bindColumns_agree`).

The main result (`Columns.render_noninterference`) is that alike scenes have equal frames, or the
same fault, and that a scene may be changed in whatever ways do not show (`Scene.Unseen`): the
breakpoints of other files, the selections of other views, marks on lines out of sight or behind
another mark of their line, and whatever else a mark carries.
-/
namespace EditorGutter

open Text

/-! ### Marks -/

/-- What is seen of a diagnostic: its severity, where none counts as a warning. -/
def Diagnostic.look (d : Diagnostic) : Severity := d.severity.getD .warning

/-- What is seen of a breakpoint. -/
structure BreakpointLook where
  verified : Bool
  conditional : Bool
  logging : Bool
  deriving DecidableEq

/-- What is seen of a breakpoint: whether it is confirmed, and whether it has a condition and a log
message. -/
def Breakpoint.look (b : Breakpoint) : BreakpointLook :=
  ⟨b.verified, b.condition.isSome, b.logMessage.isSome⟩

/-- What is seen of some marks on a line: the look of the first of them. -/
def lookOn? {α γ : Type} (lineOf : α → Number) (look : α → γ) (marks : List α) (line : Number) :
    Option γ :=
  (marks.find? fun a => lineOf a = line).map look

/-- The style of a look. -/
def BreakpointStyles.ofLook (styles : BreakpointStyles) (look : BreakpointLook) : Style :=
  let style :=
    if look.conditional then
      if look.logging then styles.error.addModifier Modifier.underlined.mask else styles.error
    else if look.logging then styles.info else styles.warning
  if look.verified then style else style.withFg (Color.fade style.fg)

theorem BreakpointStyles.of_eq_ofLook (styles : BreakpointStyles) (b : Breakpoint) :
    styles.of b = styles.ofLook b.look := by
  obtain ⟨line, verified, id, message, column, condition, hitCondition, logMessage⟩ := b
  rcases condition with - | condition
  · rcases logMessage with - | logMessage
    · rfl
    · rfl
  · rcases logMessage with - | logMessage
    · rfl
    · rfl

theorem DiagnosticStyles.of_look (styles : DiagnosticStyles) (d : Diagnostic) :
    styles.of d.severity = styles.of (some d.look) := by
  unfold Diagnostic.look
  rcases d.severity with - | severity
  · rfl
  · rfl

/-- Of the diagnostics only what is seen on the line is drawn. -/
theorem drawDiagnostic_eq (scene : Scene) (styles : DiagnosticStyles) (line : Number)
    (selected : Bool) :
    drawDiagnostic scene styles line selected =
      match lookOn? Diagnostic.line Diagnostic.look scene.doc.diagnostics line with
      | some look => { text := ofString Glyph.diagnostic, style := some (styles.of (some look)) }
      | none => {} := by
  unfold drawDiagnostic lookOn?
  rw [get?_firstByLine]
  rcases scene.doc.diagnostics.find? _ with - | d
  · rfl
  · show Mark.mk _ _ = Mark.mk _ _
    rw [styles.of_look d]

/-- Of the breakpoints only what is seen on the line is drawn. -/
theorem drawBreakpoint_eq (bs : List Breakpoint) (styles : BreakpointStyles) (line : Number)
    (selected : Bool) :
    drawBreakpoint bs styles line selected =
      match lookOn? Breakpoint.line Breakpoint.look bs line with
      | some look =>
        { text := ofString
            (if look.verified then Glyph.breakpointVerified else Glyph.breakpointUnverified)
          style := some (styles.ofLook look) }
      | none => {} := by
  unfold drawBreakpoint lookOn?
  rw [get?_firstByLine]
  rcases bs.find? _ with - | b
  · rfl
  · show Mark.mk _ _ = Mark.mk _ _
    rw [styles.of_eq_ofLook b]
    rfl

/-! ### Alike scenes -/

namespace Scene

/-- The breakpoints of the file that backs the document. -/
def ownBreakpoints (scene : Scene) : List Breakpoint :=
  match scene.doc.path with
  | some path => scene.editor.breakpoints.list path
  | none => []

/-- What is seen of the diagnostics on a line. -/
def severityOn? (scene : Scene) (line : Number) : Option Severity :=
  lookOn? Diagnostic.line Diagnostic.look scene.doc.diagnostics line

/-- What is seen of the breakpoints on a line. -/
def breakpointOn? (scene : Scene) (line : Number) : Option BreakpointLook :=
  lookOn? Breakpoint.line Breakpoint.look scene.ownBreakpoints line

/-- The line of the primary cursor of the view. -/
def primaryLine (scene : Scene) : Except Fault Nat :=
  (scene.doc.selection scene.view.id).primaryCursorLine scene.doc.buffer

/-- Two scenes have all in common that a frame is drawn from. -/
structure Alike (scene scene' : Scene) : Prop where
  theme : scene.theme = scene'.theme
  focused : scene.focused = scene'.focused
  offset : scene.view.offset = scene'.view.offset
  height : scene.view.height = scene'.view.height
  text : scene.doc.buffer.text = scene'.doc.buffer.text
  path : scene.doc.path = none ↔ scene'.doc.path = none
  numbering : scene.editor.config.numbering = scene'.editor.config.numbering
  cursorLines : scene.cursorLines = scene'.cursorLines
  primaryLine : scene.primaryLine = scene'.primaryLine
  severities : ∀ line ∈ scene.visibleLines, scene.severityOn? line = scene'.severityOn? line
  breakpoints : ∀ line ∈ scene.visibleLines, scene.breakpointOn? line = scene'.breakpointOn? line

theorem ownBreakpoints_of_none (scene : Scene) (h : scene.doc.path = none) :
    scene.ownBreakpoints = [] := by
  unfold ownBreakpoints
  rw [h]

theorem ownBreakpoints_of_some (scene : Scene) {path : Text} (h : scene.doc.path = some path) :
    scene.ownBreakpoints = scene.editor.breakpoints.list path := by
  unfold ownBreakpoints
  rw [h]

variable {scene scene' : Scene}

theorem Alike.buffer (h : scene.Alike scene') : scene.doc.buffer = scene'.doc.buffer :=
  congrArg Buffer.mk h.text

theorem Alike.lastLine (h : scene.Alike scene') :
    scene.view.lastLine scene.doc.buffer = scene'.view.lastLine scene'.doc.buffer := by
  unfold View.lastLine
  rw [h.buffer, h.offset, h.height]

theorem Alike.visibleLines (h : scene.Alike scene') :
    scene.visibleLines = scene'.visibleLines := by
  unfold Scene.visibleLines View.visibleLines
  rw [h.lastLine, h.buffer, h.offset]

theorem Alike.numbersLast (h : scene.Alike scene') : numbersLast scene = numbersLast scene' := by
  unfold EditorGutter.numbersLast
  rw [h.lastLine, h.buffer]

theorem Alike.baseStyle (h : scene.Alike scene') : scene.baseStyle = scene'.baseStyle := by
  unfold Scene.baseStyle
  rw [h.theme]

end Scene

/-! ### Binding -/

variable {scene scene' : Scene}

/-- Two renderers draw some lines alike. -/
def LineRenderer.AlikeOn (lines : List Number) (draw draw' : LineRenderer) : Prop :=
  ∀ line ∈ lines, ∀ selected, draw line selected = draw' line selected

/-- Bound to alike scenes, a gutter of the editor fails alike or draws the visible lines alike. -/
theorem GutterKind.bind_agree (h : scene.Alike scene') (kind : GutterKind) (width : Nat) :
    Agree (LineRenderer.AlikeOn scene.visibleLines) (kind.bind scene width)
      (kind.bind scene' width) := by
  cases kind with
  | diagnostics =>
    show Agree _ (bindDiagnostics scene) (bindDiagnostics scene')
    rw [bindDiagnostics_eq, bindDiagnostics_eq, h.theme]
    refine Agree.bind_same _ fun warning => ?_
    refine Agree.bind_same _ fun error => ?_
    refine Agree.bind_same _ fun info => ?_
    refine Agree.bind_same _ fun hint => .ok ?_
    intro line hline selected
    have hlook := h.severities line hline
    unfold Scene.severityOn? at hlook
    rw [drawDiagnostic_eq, drawDiagnostic_eq, hlook]
  | lineNumbers =>
    show Agree _ (bindLineNumbers scene width) (bindLineNumbers scene' width)
    have hprimary : (scene.doc.selection scene.view.id).primaryCursorLine scene.doc.buffer =
        (scene'.doc.selection scene'.view.id).primaryCursorLine scene'.doc.buffer := h.primaryLine
    rw [bindLineNumbers_eq, bindLineNumbers_eq, hprimary, h.theme]
    refine Agree.bind_same _ fun plain => ?_
    refine Agree.bind_same _ fun cursor => .ok ?_
    intro line hline selected
    -- all that a number is drawn from is alike on every line
    unfold drawNumber
    rw [h.lastLine, h.numbersLast, h.numbering, h.focused, h.theme]
  | breakpoints =>
    show Agree _ (bindBreakpoints scene) (bindBreakpoints scene')
    rw [bindBreakpoints_eq, bindBreakpoints_eq, h.theme]
    refine Agree.bind_same _ fun warning => ?_
    refine Agree.bind_same _ fun error => ?_
    refine Agree.bind_same _ fun info => ?_
    rcases hpath : scene.doc.path with - | path
    · rw [h.path.mp hpath]
      exact .error _
    · rcases hpath' : scene'.doc.path with - | path'
      · rw [h.path.mpr hpath'] at hpath
        cases hpath
      · -- both documents have a file, and each is looked up under its own
        refine .ok ?_
        intro line hline selected
        have hlook := h.breakpoints line hline
        unfold Scene.breakpointOn? at hlook
        rw [scene.ownBreakpoints_of_some hpath, scene'.ownBreakpoints_of_some hpath'] at hlook
        rw [drawBreakpoint_eq, drawBreakpoint_eq, hlook]

/-- Bound to alike scenes, columns of the editor fail alike or draw the visible lines alike. -/
theorem bindColumns_agree (h : scene.Alike scene') {columns : List Column}
    (hcolumns : ∀ c ∈ columns, ∃ kind, c.gutter = .builtin kind) :
    Agree (fun bound bound' => ∀ line ∈ scene.visibleLines,
        List.Forall₂ (BoundColumn.AlikeOn line) bound bound')
      (bindColumns scene columns) (bindColumns scene' columns) := by
  induction columns with
  | nil => exact .ok fun line _ => .nil
  | cons c rest ih =>
    obtain ⟨⟨kind, hkind⟩, hrest⟩ := List.forall_mem_cons.mp hcolumns
    have hbind : Agree (LineRenderer.AlikeOn scene.visibleLines) (c.gutter.bind scene c.width)
        (c.gutter.bind scene' c.width) := by
      rw [hkind]
      exact GutterKind.bind_agree h kind c.width
    rw [bindColumns_cons, bindColumns_cons]
    refine hbind.bind fun draw draw' hdraw => (ih hrest).bind fun bound bound' hbound => .ok ?_
    intro line hline
    exact .cons ⟨rfl, hdraw line hline⟩ (hbound line hline)

/-- **Alike scenes have equal frames**, or the same fault. -/
theorem Scene.Alike.render_eq (h : scene.Alike scene') {cs : Columns} (hcs : cs.Builtin) :
    cs.render scene = cs.render scene' := by
  rw [Columns.render_eq, Columns.render_eq]
  refine ((bindColumns_agree h hcs).bind fun bound bound' hbound => .ok ?_).eq
  rw [← h.visibleLines, ← h.baseStyle, ← h.cursorLines]
  -- rows ask of the columns only how they draw on visible lines
  have hrows : scene.visibleLines.map (drawRow scene.baseStyle scene.cursorLines bound) =
      scene.visibleLines.map (drawRow scene.baseStyle scene.cursorLines bound') :=
    List.map_congr_left fun line hline => drawRow_congr _ _ (hbound line hline)
  rw [hrows]

/-! ### Changes that do not show -/

/-- A change in a list of marks that does not show on some lines: one more mark that is on none of
them or behind another of its line, or a mark of the same look in place of one. -/
inductive HiddenChange {α γ : Type} (lineOf : α → Number) (look : α → γ) (lines : List Number) :
    List α → List α → Prop
  | extra (before : List α) (a : α) (after : List α)
    (h : lineOf a ∉ lines ∨ ∃ b ∈ before, lineOf b = lineOf a) :
    HiddenChange lineOf look lines (before ++ after) (before ++ a :: after)
  | instead (before : List α) (a b : α) (after : List α) (hline : lineOf a = lineOf b)
    (hlook : look a = look b) :
    HiddenChange lineOf look lines (before ++ a :: after) (before ++ b :: after)

theorem HiddenChange.lookOn?_eq {α γ : Type} {lineOf : α → Number} {look : α → γ}
    {lines : List Number} {marks marks' : List α}
    (h : HiddenChange lineOf look lines marks marks') {line : Number} (hline : line ∈ lines) :
    lookOn? lineOf look marks line = lookOn? lineOf look marks' line := by
  unfold lookOn?
  cases h with
  | extra before a after h =>
    rw [List.find?_append, List.find?_append, List.find?_cons]
    by_cases ha : lineOf a = line
    · -- the line is one of those, so a mark before is on it
      obtain ⟨b, hb, hba⟩ := h.resolve_left fun hnot => hnot (ha ▸ hline)
      have hsome : (before.find? fun a => lineOf a = line).isSome := by
        rw [List.find?_isSome]
        exact ⟨b, hb, decide_eq_true (hba.trans ha)⟩
      obtain ⟨c, hc⟩ := Option.isSome_iff_exists.mp hsome
      rw [hc]
      rfl
    · simp [ha]
  | instead before a b after hab hlook =>
    rw [List.find?_append, List.find?_append, List.find?_cons, List.find?_cons, hab]
    rcases before.find? _ with - | c
    · by_cases hb : lineOf b = line
      · simp [hb, hlook]
      · simp [hb]
    · rfl

/-- The scene with other breakpoints in the editor. -/
def Scene.withBreakpoints (scene : Scene) (store : BreakpointStore) : Scene :=
  { scene with editor := { scene.editor with breakpoints := store } }

theorem Scene.ownBreakpoints_withBreakpoints (scene : Scene) (store : BreakpointStore) :
    (scene.withBreakpoints store).ownBreakpoints =
      match scene.doc.path with
      | some path => store.list path
      | none => [] := rfl

/-- A change of a scene that its frame does not show. -/
inductive Scene.Unseen (scene : Scene) : Scene → Prop
  /-- The breakpoints of another file are set. -/
  | otherFile (path : Text) (bs : List Breakpoint) (h : scene.doc.path ≠ some path) :
    Unseen scene (scene.withBreakpoints (scene.editor.breakpoints.set path bs))
  /-- The selection of another view is set. -/
  | otherView (id : Number) (sel : Selection) (h : id ≠ scene.view.id) :
    Unseen scene { scene with doc := scene.doc.setSelection id sel }
  /-- The diagnostics change out of sight. -/
  | diagnostics (ds : List Diagnostic)
    (h : HiddenChange Diagnostic.line Diagnostic.look scene.visibleLines scene.doc.diagnostics ds) :
    Unseen scene { scene with doc := scene.doc.setDiagnostics ds }
  /-- The breakpoints of the file change out of sight. -/
  | breakpoints (path : Text) (bs : List Breakpoint) (hpath : scene.doc.path = some path)
    (h : HiddenChange Breakpoint.line Breakpoint.look scene.visibleLines
      (scene.editor.breakpoints.list path) bs) :
    Unseen scene (scene.withBreakpoints (scene.editor.breakpoints.set path bs))

/-- Other breakpoints leave a scene alike if the first one on each visible line looks the same. -/
theorem Scene.alike_withBreakpoints {store : BreakpointStore}
    (h : ∀ line ∈ scene.visibleLines,
      scene.breakpointOn? line = (scene.withBreakpoints store).breakpointOn? line) :
    scene.Alike (scene.withBreakpoints store) where
  theme := rfl
  focused := rfl
  offset := rfl
  height := rfl
  text := rfl
  path := .rfl
  numbering := rfl
  cursorLines := rfl
  primaryLine := rfl
  severities := fun _ _ => rfl
  breakpoints := h

/-- Another document leaves a scene alike if it has the same text, file and selection of the view,
and if the first diagnostic on each visible line looks the same. -/
theorem Scene.alike_withDoc {doc : Document} (hbuffer : scene.doc.buffer = doc.buffer)
    (hpath : scene.doc.path = doc.path)
    (hselection : scene.doc.selection scene.view.id = doc.selection scene.view.id)
    (h : ∀ line ∈ scene.visibleLines,
      scene.severityOn? line = Scene.severityOn? { scene with doc := doc } line) :
    scene.Alike { scene with doc := doc } where
  theme := rfl
  focused := rfl
  offset := rfl
  height := rfl
  text := congrArg Buffer.text hbuffer
  path := by rw [hpath]
  numbering := rfl
  cursorLines := by
    show (scene.doc.selection _).cursorLines _ = (doc.selection _).cursorLines _
    rw [hselection, hbuffer]
  primaryLine := by
    show (scene.doc.selection _).primaryCursorLine _ = (doc.selection _).primaryCursorLine _
    rw [hselection, hbuffer]
  severities := h
  breakpoints := by
    intro line _
    unfold Scene.breakpointOn? Scene.ownBreakpoints
    rw [hpath]

theorem Scene.Unseen.alike (h : scene.Unseen scene') : scene.Alike scene' := by
  cases h with
  | otherFile path bs hpath =>
    have hown : scene.ownBreakpoints =
        (scene.withBreakpoints (scene.editor.breakpoints.set path bs)).ownBreakpoints := by
      rcases hscene : scene.doc.path with - | own
      · rw [scene.ownBreakpoints_withBreakpoints, scene.ownBreakpoints_of_none hscene, hscene]
      · have hne : path ≠ own := fun hsame => hpath (hsame ▸ hscene)
        rw [scene.ownBreakpoints_withBreakpoints, scene.ownBreakpoints_of_some hscene, hscene]
        exact (BreakpointStore.list_set_of_ne _ hne bs).symm
    apply Scene.alike_withBreakpoints
    intro line hline
    unfold Scene.breakpointOn?
    rw [hown]
  | otherView id sel hid =>
    -- the selection of the view is still there
    have hselection : scene.doc.selection scene.view.id =
        (scene.doc.setSelection id sel).selection scene.view.id :=
      (Document.selection_setSelection_of_ne hid sel).symm
    exact Scene.alike_withDoc rfl rfl hselection fun _ _ => rfl
  | diagnostics ds hds =>
    exact Scene.alike_withDoc rfl rfl rfl fun _ hline => hds.lookOn?_eq hline
  | breakpoints path bs hpath hbs =>
    have hset : (scene.withBreakpoints (scene.editor.breakpoints.set path bs)).ownBreakpoints =
        bs := by
      rw [scene.ownBreakpoints_withBreakpoints, hpath]
      exact BreakpointStore.list_set _ _ _
    apply Scene.alike_withBreakpoints
    intro line hline
    unfold Scene.breakpointOn?
    rw [scene.ownBreakpoints_of_some hpath, hset]
    exact hbs.lookOn?_eq hline

/-- **What does not show does not matter.**  Alike scenes have equal frames, or the same fault; and
so do a scene and what it becomes by any sequence of unseen changes, made or taken back. -/
theorem Columns.render_noninterference {cs : Columns} (hcs : cs.Builtin) (scene : Scene) :
    (∀ scene', scene.Alike scene' → cs.render scene = cs.render scene') ∧
    ∀ scene', Relation.EqvGen Scene.Unseen scene scene' → cs.render scene = cs.render scene' := by
  refine ⟨fun scene' h => h.render_eq hcs, ?_⟩
  intro scene' h
  induction h with
  | rel _ _ h => exact h.alike.render_eq hcs
  | refl => rfl
  | symm _ _ _ ih => exact ih.symm
  | trans _ _ _ _ _ ih ih' => exact ih.trans ih'

/-- The sample scene in another session: another file and view, a selection instead of a cursor, and
marks that differ from those of the sample wherever it does not show. -/
def disguisedScene : Scene :=
  let path := ofString "/tmp/other.ts"
  { Sample.scene .relative with
    editor := ⟨Sample.config .relative,
      (BreakpointStore.empty.set Sample.path [{ line := 0, verified := true }]).set path
        [{ line := 40, verified := true },
          { line := 1, verified := true, id := some 7, column := some 3 },
          { line := 4, verified := false, condition := some (ofString "n"),
            hitCondition := some (ofString "3") },
          { line := 4, verified := true }]⟩
    doc :=
      let doc := { Document.create (some path) Sample.source with version := 6 }
      let doc := doc.setSelection 2 (Selection.single 65 80)
      doc.setDiagnostics
        [⟨5, 0, 1, ofString "style", some .warning, none, some (.number 3)⟩,
          ⟨1, 0, 1, ofString "syntax", some .error, none, none⟩,
          ⟨1, 0, 2, ofString "unused", some .hint, none, none⟩]
    view := { Sample.view with id := 2 } }

/-- The two scenes have the same frame; and the sample has the same one once breakpoints of another
file and the selection of another view have come in. -/
theorem Columns.render_noninterference_disguised :
    let scene := Sample.scene .relative
    let withFile := scene.withBreakpoints (scene.editor.breakpoints.set (ofString "/tmp/other.ts")
      [{ line := 0, verified := true }])
    let withView : Scene :=
      { withFile with doc := withFile.doc.setSelection 2 (Selection.single 3 9) }
    (oneEach 2 Nat.two_pos).Builtin ∧ scene.Alike disguisedScene ∧
      Relation.EqvGen Scene.Unseen scene withView ∧
      (oneEach 2 Nat.two_pos).render scene = (oneEach 2 Nat.two_pos).render disguisedScene ∧
      (oneEach 2 Nat.two_pos).render scene = (oneEach 2 Nat.two_pos).render withView ∧
      ∃ frame, (oneEach 2 Nat.two_pos).render scene = .ok frame := by
  intro scene withFile withView
  have hcs := builtin_oneEach 2 Nat.two_pos
  have halike : scene.Alike disguisedScene := by
    refine ⟨rfl, rfl, rfl, rfl, rfl, ⟨nofun, nofun⟩, rfl, ?_, ?_, ?_, ?_⟩
    · decide +kernel
    · decide +kernel
    · decide +kernel
    · decide +kernel
  have hunseen : Relation.EqvGen Scene.Unseen scene withView := by
    refine .trans _ withFile _ (.rel _ _ ?_) (.rel _ _ ?_)
    · exact .otherFile _ _ (by decide +kernel)
    · exact .otherView _ _ (by decide +kernel)
  obtain ⟨halikes, hchanges⟩ := render_noninterference hcs scene
  exact ⟨hcs, halike, hunseen, halikes _ halike, hchanges _ hunseen,
    exists_eq_ok (by decide +kernel)⟩

end EditorGutter
