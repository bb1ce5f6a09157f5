import EditorGutter.Buffer

/-!
Diagnostics and their intake from language servers.

A server reports positions as a line and a character in that line.  They are held inside the
document before they become offsets: the line among its lines, the character inside its line.
The line on which a diagnostic is marked stays the one that was reported.
-/
namespace EditorGutter

/-- How grave a diagnostic is. -/
inductive Severity where
  | error
  | warning
  | info
  | hint
  deriving DecidableEq, Repr

namespace Severity

/-- The number by which servers know a severity. -/
def code : Severity → Nat
  | .error => 1
  | .warning => 2
  | .info => 3
  | .hint => 4

/-- The name of a severity. -/
def name : Severity → String
  | .error => "error"
  | .warning => "warning"
  | .info => "info"
  | .hint => "hint"

/-- Every severity, the gravest first. -/
def all : List Severity := [.error, .warning, .info, .hint]

/-- The severity with the given number, if it is one. -/
def ofCode? (n : Option Number) : Option Severity :=
  all.find? fun s => n = some (s.code : Number)

end Severity

/-- The identity of a rule in the tool that reports it. -/
inductive RuleCode where
  | number (n : Number)
  | text (t : Text)
  deriving DecidableEq, Repr

/-- A mark on a line, with the offsets of the text that it is about. -/
structure Diagnostic where
  line : Number
  start : Number
  stop : Number
  message : Text
  /-- Absent when the server sent none; it is then drawn as a warning. -/
  severity : Option Severity
  source : Option Text
  code : Option RuleCode
  deriving DecidableEq, Repr

/-- A place in a document as servers report it. -/
structure Position where
  line : Number
  character : Number
  deriving DecidableEq, Repr

/-- A diagnostic as a server publishes it. -/
structure PublishedDiagnostic where
  start : Position
  stop : Position
  severity : Option Number
  code : Option RuleCode
  source : Option Text
  message : Text
  deriving DecidableEq, Repr

/-- The offset of a position, held inside the document; NaN if its line is a fraction. -/
def Position.offset (p : Position) (b : Buffer) : Number :=
  let line := p.line.clampTo (b.lineCount - 1 : Nat)
  let character := p.character.clampTo (b.lineLength line)
  match b.lineOffset? line with
  | some start => character.moveBy (b.lineLength line) start
  | none => .nan

/-- The diagnostic that a server published, placed in a buffer. -/
def PublishedDiagnostic.place (d : PublishedDiagnostic) (b : Buffer) : Diagnostic where
  line := d.start.line
  start := d.start.offset b
  stop := d.stop.offset b
  message := d.message
  severity := Severity.ofCode? d.severity
  source := d.source
  code := d.code

end EditorGutter
