import EditorGutter.Number.Order
import EditorGutter.Text.Basic

/-!
Breakpoints, and the forms in which they travel to a debug adapter and back.

Lines and columns count from zero in the editor and from one on the wire.  `Breakpoint.request`
and `Breakpoint.merge` are the two crossings.
-/
namespace EditorGutter

/-- A breakpoint on a line of a file. -/
structure Breakpoint where
  line : Number
  /-- Whether the adapter has confirmed it. -/
  verified : Bool
  /-- The adapter's name for it, known once the adapter has reported on it. -/
  id : Option Number := none
  message : Option Text := none
  column : Option Number := none
  condition : Option Text := none
  hitCondition : Option Text := none
  logMessage : Option Text := none
  deriving DecidableEq, Repr

/-- A breakpoint as the editor asks for it. -/
structure BreakpointRequest where
  line : Number
  column : Option Number
  condition : Option Text
  hitCondition : Option Text
  logMessage : Option Text
  deriving DecidableEq, Repr

/-- What an adapter reports about a breakpoint. -/
structure BreakpointReport where
  verified : Bool
  id : Option Number := none
  message : Option Text := none
  line : Option Number := none
  column : Option Number := none
  deriving DecidableEq, Repr

/-- Why an adapter reports on its own account. -/
inductive ReportReason where
  | changed
  | added
  | removed
  deriving DecidableEq, Repr

/-- The word for a reason. -/
def ReportReason.name : ReportReason → String
  | .changed => "changed"
  | .added => "new"
  | .removed => "removed"

namespace Breakpoint

/-- The request for a breakpoint. -/
def request (b : Breakpoint) : BreakpointRequest where
  line := b.line + 1
  column := b.column.map (· + 1)
  condition := b.condition
  hitCondition := b.hitCondition
  logMessage := b.logMessage

/-- The breakpoint with what an adapter reported about it; what the report leaves out stays. -/
def merge (b : Breakpoint) (r : BreakpointReport) : Breakpoint :=
  { b with
    verified := r.verified
    id := r.id <|> b.id
    message := r.message <|> b.message
    line := match r.line with
      | some line => line - 1
      | none => b.line
    column := match r.column with
      | some column => some (column - 1)
      | none => b.column }

/-- Whether a breakpoint has the given name. -/
def hasId (id : Number) (b : Breakpoint) : Bool :=
  match b.id with
  | some own => own.equals id
  | none => false

end Breakpoint

end EditorGutter
