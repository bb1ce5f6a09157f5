import EditorGutter.Breakpoint.Store
import EditorGutter.Config

/-!
The state of the editor that the gutter reads: its configuration and the breakpoints of all files.
-/
namespace EditorGutter

/-- The configuration and the breakpoints. -/
structure Editor where
  config : Config := Config.default
  breakpoints : BreakpointStore := BreakpointStore.empty
  deriving DecidableEq

/-- An editor with the configuration that a value describes, and no breakpoints. -/
def Editor.ofValue (raw : Option Value) : Except Fault Editor :=
  (Config.resolve raw).map fun config => { config := config }

end EditorGutter
