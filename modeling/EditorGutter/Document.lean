import EditorGutter.Diagnostic
import EditorGutter.OrderedMap
import EditorGutter.Selection

/-!
Documents: a path, a buffer, a version, diagnostics, and one selection for each view.

Selections are held inside the text when they are set and whenever the text changes.  A new text
is a new version and drops the diagnostics, which were about the old one.
-/
namespace EditorGutter

/-- A document; `path` is the file that backs it, if one does. -/
structure Document where
  path : Option Text
  buffer : Buffer
  version : Nat
  diagnostics : List Diagnostic
  selections : OrderedMap Number Selection
  deriving DecidableEq

namespace Document

/-- A document that nothing has happened to. -/
def create (path : Option Text) (text : Text) : Document where
  path := path
  buffer := Buffer.ofText text
  version := 0
  diagnostics := []
  selections := OrderedMap.empty

variable (doc : Document)

/-- The selection of a view; one that never set any has its cursor at the start. -/
def selection (view : Number) : Selection :=
  (doc.selections.get? view).getD (Selection.point 0)

/-- The document with the selection of a view set. -/
def setSelection (view : Number) (s : Selection) : Document :=
  { doc with selections := doc.selections.insert view (s.clamp doc.buffer.length) }

/-- The views that have a selection, in the order in which they first set one. -/
def viewIds : List Number := doc.selections.keys

/-- The document with other diagnostics. -/
def setDiagnostics (ds : List Diagnostic) : Document :=
  { doc with diagnostics := ds }

/-- The document with the diagnostics that a server published, in its order. -/
def publish (ds : List PublishedDiagnostic) : Document :=
  doc.setDiagnostics (ds.map fun d => d.place doc.buffer)

/-- The document with another text. -/
def setText (text : Text) : Document :=
  let buffer := Buffer.ofText text
  { doc with
    buffer := buffer
    version := doc.version + 1
    diagnostics := []
    selections := doc.selections.updateEach (Selection.clamp buffer.length) }

theorem buffer_setText (text : Text) : (doc.setText text).buffer = doc.buffer.setText text := rfl

theorem selections_setText (text : Text) :
    (doc.setText text).selections =
      doc.selections.mapValues (Selection.clamp (Buffer.ofText text).length) :=
  OrderedMap.updateEach_eq_mapValues _ _

theorem viewIds_setText (text : Text) : (doc.setText text).viewIds = doc.viewIds := by
  rw [viewIds, selections_setText]
  exact OrderedMap.keys_mapValues _ _

theorem viewIds_setSelection (view : Number) (s : Selection) :
    (doc.setSelection view s).viewIds =
      if view ∈ doc.viewIds then doc.viewIds else doc.viewIds ++ [view] :=
  OrderedMap.keys_insert _ _ _

end Document

end EditorGutter
