import EditorGutter.Document
import EditorGutter.Editor
import EditorGutter.Theme.Basic
import EditorGutter.View

/-!
Gutters: what is drawn beside the lines of a document.

A gutter is bound to a scene once for each frame, which looks up the styles it needs and may fail,
and then draws each line, which never fails.  What it draws on a line is a `Mark`: some text and
the style to show it with, or no style.  The three gutters that come with the editor mark
diagnostics, number the lines and mark breakpoints.
-/
namespace EditorGutter

open Text

/-- What one frame is drawn from. -/
structure Scene where
  editor : Editor
  doc : Document
  view : View
  theme : Theme
  focused : Bool

/-- What a gutter draws on one line. -/
structure Mark where
  text : Text := []
  style : Option Style := none
  deriving DecidableEq, Repr

/-- A bound gutter: what it draws on a line, given also whether a cursor stands there. -/
abbrev LineRenderer := Number → Bool → Mark

/-- A gutter: one that comes with the editor, or one that a host brings, as the way it is bound to
a scene for a column of some width. -/
inductive Gutter where
  | builtin (kind : GutterKind)
  | custom (bind : Scene → Nat → Except Fault LineRenderer)

namespace Glyph

/-- The mark of a diagnostic. -/
def diagnostic : String := "●"

/-- The mark of an empty last line. -/
def emptyLastLine : String := "~"

/-- The mark of a breakpoint that the adapter has confirmed. -/
def breakpointVerified : String := "▲"

/-- The mark of a breakpoint that it has not. -/
def breakpointUnverified : String := "⊚"

end Glyph

/-! ### Marks by line -/

/-- The first of some items on each line, found by line. -/
def firstByLine {α : Type} (lineOf : α → Number) (items : List α) : OrderedMap Number α :=
  items.foldl (fun m a => m.insertNew (lineOf a) a) OrderedMap.empty

/-! ### Diagnostics -/

/-- The styles of diagnostics by severity. -/
structure DiagnosticStyles where
  warning : Style
  error : Style
  info : Style
  hint : Style

/-- The style of a severity; a diagnostic without one counts as a warning. -/
def DiagnosticStyles.of (styles : DiagnosticStyles) : Option Severity → Style
  | some .error => styles.error
  | some .info => styles.info
  | some .hint => styles.hint
  | some .warning | none => styles.warning

/-- Marks the first diagnostic on each line. -/
def bindDiagnostics (scene : Scene) : Except Fault LineRenderer := do
  let warning ← scene.theme.style Scope.warning.text
  let error ← scene.theme.style Scope.error.text
  let info ← scene.theme.style Scope.info.text
  let hint ← scene.theme.style Scope.hint.text
  let styles : DiagnosticStyles := ⟨warning, error, info, hint⟩
  let diagnostics := firstByLine Diagnostic.line scene.doc.diagnostics
  return fun line _ =>
    match diagnostics.get? line with
    | some d => { text := ofString Glyph.diagnostic, style := some (styles.of d.severity) }
    | none => {}

/-! ### Line numbers -/

/-- Whether the last visible line has a number, which it has not if it is the empty last line of
the document: its start is then the end of the text. -/
def numbersLast (scene : Scene) : Bool :=
  scene.doc.buffer.lineByteOffset (scene.view.lastLine scene.doc.buffer)
    < scene.doc.buffer.byteLength

/-- The number shown on a line. -/
def shownNumber (mode : NumberingMode) (cursor line : Number) : Number :=
  if mode = .relative ∧ ¬ line.equals cursor then (cursor - line).abs else line + 1

/-- Numbers the lines, right-aligned; the line of a cursor stands out in a view with the focus. -/
def bindLineNumbers (scene : Scene) (width : Nat) : Except Fault LineRenderer := do
  let buffer := scene.doc.buffer
  let last := scene.view.lastLine buffer
  let plain ← scene.theme.style Scope.lineNumber.text
  let selectedStyle := (scene.theme.style? Scope.lineNumberSelected.text).getD plain
  let cursor ← (scene.doc.selection scene.view.id).primaryCursorLine buffer
  let drawLast := numbersLast scene
  return fun line selected =>
    if line.equals last && !drawLast then
      { text := padLeft width (ofString Glyph.emptyLastLine), style := some plain }
    else
      { text := padLeft width (shownNumber scene.editor.config.numbering cursor line).toText
        style := some (if selected && scene.focused then selectedStyle else plain) }

/-! ### Breakpoints -/

/-- The styles of breakpoints. -/
structure BreakpointStyles where
  warning : Style
  error : Style
  info : Style

/-- The style of a breakpoint by what it has: a condition, a log message, both underlined, or
neither; one that is not confirmed has its foreground faded. -/
def BreakpointStyles.of (styles : BreakpointStyles) (b : Breakpoint) : Style :=
  let style :=
    match b.condition, b.logMessage with
    | some _, some _ => styles.error.addModifier Modifier.underlined.mask
    | some _, none => styles.error
    | none, some _ => styles.info
    | none, none => styles.warning
  if b.verified then style else style.withFg (Color.fade style.fg)

/-- The glyph of a breakpoint. -/
def breakpointGlyph (b : Breakpoint) : String :=
  if b.verified then Glyph.breakpointVerified else Glyph.breakpointUnverified

/-- Marks the first breakpoint on each line of the file that backs the document; a document
without a file cannot be bound. -/
def bindBreakpoints (scene : Scene) : Except Fault LineRenderer := do
  let warning ← scene.theme.style Scope.warning.text
  let error ← scene.theme.style Scope.error.text
  let info ← scene.theme.style Scope.info.text
  let styles : BreakpointStyles := ⟨warning, error, info⟩
  match scene.doc.path with
  | none => .error .missingDocumentPath
  | some path =>
    let breakpoints := firstByLine Breakpoint.line (scene.editor.breakpoints.list path)
    return fun line _ =>
      match breakpoints.get? line with
      | some b => { text := ofString (breakpointGlyph b), style := some (styles.of b) }
      | none => {}

/-! ### Binding -/

/-- Binds a gutter that comes with the editor. -/
def GutterKind.bind (kind : GutterKind) (scene : Scene) (width : Nat) :
    Except Fault LineRenderer :=
  match kind with
  | .diagnostics => bindDiagnostics scene
  | .lineNumbers => bindLineNumbers scene width
  | .breakpoints => bindBreakpoints scene

/-- Binds a gutter to a scene for a column of some width. -/
def Gutter.bind (gutter : Gutter) (scene : Scene) (width : Nat) : Except Fault LineRenderer :=
  match gutter with
  | .builtin kind => kind.bind scene width
  | .custom bind => bind scene width

end EditorGutter
