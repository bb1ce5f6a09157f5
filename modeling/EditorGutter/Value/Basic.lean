import EditorGutter.Number.Basic
import EditorGutter.Text.Basic

/-!
Untrusted values: what a host hands over as configuration, and what a log record carries.

A value is one of the six kinds of JSON.  The members of an object are kept as they were written,
so a key may occur more than once; `EditorGutter.Value.Record` says what such a list means.
-/
namespace EditorGutter

/-- A value of unknown shape. -/
inductive Value where
  | null
  | bool (b : Bool)
  | number (n : Number)
  | text (t : Text)
  | array (items : List Value)
  | object (members : List (Text × Value))
  deriving Inhabited

end EditorGutter
