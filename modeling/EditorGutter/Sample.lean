import EditorGutter.Paint.Basic
import EditorGutter.Theme.Builtin

/-!
A small scene: a document with diagnostics and breakpoints, shown with its gutter beside its text,
once with absolute and once with relative line numbers.
-/
namespace EditorGutter

namespace Sample

open Text

/-- The file of the document. -/
def path : Text := ofString "/tmp/example.ts"

/-- The text of the document. -/
def source : Text := ofString (String.join
  ["function greet(name: string): string \x7b\n",
   "  return `Hello, $\x7bname\x7d!`;\n",
   "\x7d\n",
   "\n",
   "const result = greet(\"World\");\n",
   "console.log(result);\n"])

/-- The view on the document, ten rows from its start. -/
def view : View := ⟨1, 0, 10, by decide⟩

/-- What the language server has published. -/
def published : List PublishedDiagnostic :=
  [⟨⟨1, 9⟩, ⟨1, 14⟩, some 1, none, none, ofString "unterminated template"⟩,
   ⟨⟨5, 0⟩, ⟨5, 7⟩, none, none, none, ofString "no console"⟩]

/-- The breakpoints of the file, one of them conditional and not confirmed. -/
def breakpoints : List Breakpoint :=
  [{ line := 1, verified := true },
   { line := 4, verified := false, condition := some (ofString "name === \"\"") }]

/-- The document, with the cursor on its fifth line. -/
def document : Document :=
  let doc := Document.create (some path) source
  let doc := doc.setSelection view.id (Selection.point ((doc.buffer.lineOffset? 4).getD 0 : Nat))
  doc.publish published

/-- Diagnostics, breakpoints and line numbers, numbered in the given mode. -/
def config (mode : NumberingMode) : Config :=
  ⟨mode,
    [⟨.diagnostics, 1, Nat.one_pos⟩, ⟨.breakpoints, 1, Nat.one_pos⟩,
      ⟨.lineNumbers, 4, by decide⟩]⟩

/-- The scene with its lines numbered in the given mode. -/
def scene (mode : NumberingMode) : Scene where
  editor := ⟨config mode, BreakpointStore.empty.set path breakpoints⟩
  doc := document
  view := view
  theme := Theme.dark
  focused := true

/-- The heading and the painted rows for one mode, each with the text of its line. -/
def section? (depth : ColorDepth) (mode : NumberingMode) : Except Fault (List Text) := do
  let style ← Theme.dark.style (ofString "ui.text")
  let columns ← Columns.ofConfig (config mode)
  let frame ← columns.render (scene mode)
  return (ofString "--- " ++ ofString mode.name ++ ofString " ---") ::
    frame.rows.map fun row =>
      row.paint depth ++ [space] ++ style.paint depth (document.buffer.line row.line)

/-- Everything that is shown. -/
def lines (depth : ColorDepth) : Except Fault (List Text) := do
  let absolute ← section? depth .absolute
  let relative ← section? depth .relative
  return absolute ++ relative

/-- What is reported while it is drawn. -/
def records : List Log.Record :=
  [NumberingMode.absolute, NumberingMode.relative].flatMap fun mode =>
    match Columns.ofConfig (config mode) with
    | .ok columns => columns.renderRecords (scene mode)
    | .error _ => []

end Sample

end EditorGutter
