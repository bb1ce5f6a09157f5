import EditorGutter.Gutter.Basic
import EditorGutter.Proofs.Results

/-!
What the gutters of the editor look up when they are bound, and what they draw afterwards.

Binding is a chain of lookups that ends in a renderer (`bindDiagnostics_eq`, `bindLineNumbers_eq`,
`bindBreakpoints_eq`).  Which scopes a gutter requires, and in which order it asks for them, is
`GutterKind.requiredScopes`; the fault that this comes to is `GutterKind.fault?`, and binding
reports just that (`GutterKind.faultOf_bind`).
-/
namespace EditorGutter

open Text

/-! ### Lookups and renderers -/

/-- What bound diagnostics draw. -/
def drawDiagnostic (scene : Scene) (styles : DiagnosticStyles) : LineRenderer := fun line _ =>
  match (firstByLine Diagnostic.line scene.doc.diagnostics).get? line with
  | some d => { text := ofString Glyph.diagnostic, style := some (styles.of d.severity) }
  | none => {}

/-- What bound line numbers draw, given the line of the primary cursor. -/
def drawNumber (scene : Scene) (width : Nat) (plain : Style) (cursor : Nat) : LineRenderer :=
  fun line selected =>
    if line.equals (scene.view.lastLine scene.doc.buffer) && !numbersLast scene then
      { text := padLeft width (ofString Glyph.emptyLastLine), style := some plain }
    else
      { text := padLeft width (shownNumber scene.editor.config.numbering cursor line).toText
        style := some (if selected && scene.focused
          then (scene.theme.style? Scope.lineNumberSelected.text).getD plain else plain) }

/-- What bound breakpoints draw. -/
def drawBreakpoint (breakpoints : List Breakpoint) (styles : BreakpointStyles) : LineRenderer :=
  fun line _ =>
    match (firstByLine Breakpoint.line breakpoints).get? line with
    | some b => { text := ofString (breakpointGlyph b), style := some (styles.of b) }
    | none => {}

variable (scene : Scene) (width : Nat)

theorem bindDiagnostics_eq :
    bindDiagnostics scene =
      (scene.theme.style Scope.warning.text).bind fun warning =>
      (scene.theme.style Scope.error.text).bind fun error =>
      (scene.theme.style Scope.info.text).bind fun info =>
      (scene.theme.style Scope.hint.text).bind fun hint =>
        .ok (drawDiagnostic scene ⟨warning, error, info, hint⟩) := rfl

theorem bindLineNumbers_eq :
    bindLineNumbers scene width =
      (scene.theme.style Scope.lineNumber.text).bind fun plain =>
      ((scene.doc.selection scene.view.id).primaryCursorLine scene.doc.buffer).bind fun cursor =>
        .ok (drawNumber scene width plain cursor) := rfl

theorem bindBreakpoints_eq :
    bindBreakpoints scene =
      (scene.theme.style Scope.warning.text).bind fun warning =>
      (scene.theme.style Scope.error.text).bind fun error =>
      (scene.theme.style Scope.info.text).bind fun info =>
        match scene.doc.path with
        | none => .error .missingDocumentPath
        | some path =>
          .ok (drawBreakpoint (scene.editor.breakpoints.list path) ⟨warning, error, info⟩) := by
  unfold bindBreakpoints
  rcases scene.doc.path with - | path
  · rfl
  · rfl

/-- The renderers that a gutter of the editor can be bound to. -/
inductive GutterKind.Draws : GutterKind → LineRenderer → Prop
  | diagnostics (styles : DiagnosticStyles) : Draws .diagnostics (drawDiagnostic scene styles)
  | lineNumbers (plain : Style) (cursor : Nat) :
    Draws .lineNumbers (drawNumber scene width plain cursor)
  | breakpoints (breakpoints : List Breakpoint) (styles : BreakpointStyles) :
    Draws .breakpoints (drawBreakpoint breakpoints styles)

variable {scene width} in
theorem GutterKind.draws_of_bind {kind : GutterKind} {draw : LineRenderer}
    (h : kind.bind scene width = .ok draw) : kind.Draws scene width draw := by
  cases kind with
  | diagnostics =>
    obtain ⟨warning, -, h⟩ := exists_of_bind_eq_ok ((bindDiagnostics_eq scene).symm.trans h)
    obtain ⟨error, -, h⟩ := exists_of_bind_eq_ok h
    obtain ⟨info, -, h⟩ := exists_of_bind_eq_ok h
    obtain ⟨hint, -, h⟩ := exists_of_bind_eq_ok h
    obtain rfl := Except.ok.inj h
    exact .diagnostics _
  | lineNumbers =>
    obtain ⟨plain, -, h⟩ := exists_of_bind_eq_ok ((bindLineNumbers_eq scene width).symm.trans h)
    obtain ⟨cursor, -, h⟩ := exists_of_bind_eq_ok h
    obtain rfl := Except.ok.inj h
    exact .lineNumbers plain cursor
  | breakpoints =>
    obtain ⟨warning, -, h⟩ := exists_of_bind_eq_ok ((bindBreakpoints_eq scene).symm.trans h)
    obtain ⟨error, -, h⟩ := exists_of_bind_eq_ok h
    obtain ⟨info, -, h⟩ := exists_of_bind_eq_ok h
    split at h
    · cases h
    · obtain rfl := Except.ok.inj h
      exact .breakpoints _ _

/-! ### Faults -/

/-- The first of some scopes that a theme has no style for. -/
def Theme.firstMissing? (theme : Theme) (scopes : List Scope) : Option Scope :=
  scopes.find? fun scope => (theme.style? scope.text).isNone

/-- The fault of asking a theme for some scopes, one after the other. -/
def Theme.lookupFault? (theme : Theme) (scopes : List Scope) : Option Fault :=
  (theme.firstMissing? scopes).map fun scope => .missingStyle scope.text (some theme.name)

/-- A lookup fails on its scope, or else whatever comes next decides. -/
theorem Theme.faultOf_style_bind {α : Type} {theme : Theme} {scope : Scope} {scopes : List Scope}
    {next : Style → Except Fault α} {rest : Option Fault}
    (h : ∀ style, Fault.of? (next style) = (theme.lookupFault? scopes).or rest) :
    Fault.of? ((theme.style scope.text).bind next) =
      (theme.lookupFault? (scope :: scopes)).or rest := by
  unfold Theme.style lookupFault? firstMissing?
  rw [List.find?_cons]
  rcases theme.style? scope.text with - | style
  · rfl
  · exact h style

namespace GutterKind

/-- The scopes that a gutter requires, in the order in which it asks for them. -/
def requiredScopes : GutterKind → List Scope
  | .diagnostics => [.warning, .error, .info, .hint]
  | .lineNumbers => [.lineNumber]
  | .breakpoints => [.warning, .error, .info]

/-- What a gutter requires of a document once it has its styles: breakpoints require a file. -/
def pathFault? (kind : GutterKind) (path : Option Text) : Option Fault :=
  if kind = .breakpoints ∧ path = none then some .missingDocumentPath else none

/-- The fault of binding a gutter: the first scope that is missing, or else the missing file. -/
def fault? (kind : GutterKind) (theme : Theme) (path : Option Text) : Option Fault :=
  (theme.lookupFault? kind.requiredScopes).or (kind.pathFault? path)

/-- Where the primary range of the selection is there, binding reports the fault of the gutter
and no other. -/
theorem faultOf_bind {kind : GutterKind}
    (hprimary : ∃ l, (scene.doc.selection scene.view.id).primaryCursorLine scene.doc.buffer =
      .ok l) :
    Fault.of? (kind.bind scene width) = kind.fault? scene.theme scene.doc.path := by
  cases kind with
  | diagnostics =>
    show Fault.of? (bindDiagnostics scene) = _
    rw [bindDiagnostics_eq]
    refine Theme.faultOf_style_bind fun warning => ?_
    refine Theme.faultOf_style_bind fun error => ?_
    refine Theme.faultOf_style_bind fun info => ?_
    exact Theme.faultOf_style_bind fun hint => rfl
  | lineNumbers =>
    obtain ⟨cursor, hcursor⟩ := hprimary
    show Fault.of? (bindLineNumbers scene width) = _
    rw [bindLineNumbers_eq, hcursor]
    exact Theme.faultOf_style_bind fun plain => rfl
  | breakpoints =>
    show Fault.of? (bindBreakpoints scene) = _
    rw [bindBreakpoints_eq]
    refine Theme.faultOf_style_bind fun warning => ?_
    refine Theme.faultOf_style_bind fun error => ?_
    refine Theme.faultOf_style_bind fun info => ?_
    rcases scene.doc.path with - | path
    · rfl
    · rfl

end GutterKind

end EditorGutter
