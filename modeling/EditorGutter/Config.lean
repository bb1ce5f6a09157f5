import EditorGutter.Fault
import EditorGutter.Log
import EditorGutter.Number.Count

/-!
The configuration of the gutter: how lines are numbered, and which columns stand in which order
and width.

A host hands over a value of unknown shape.  What it leaves out takes its default; the first
entry that is wrong is blamed, the numbering before the columns and each column's kind before its
width.  Members that are not known are reported and otherwise ignored.
-/
namespace EditorGutter

open Text

/-- Whether lines are numbered from the top or by their distance from the cursor. -/
inductive NumberingMode where
  | absolute
  | relative
  deriving DecidableEq, Repr

/-- The name of a numbering mode. -/
def NumberingMode.name : NumberingMode → String
  | .absolute => "absolute"
  | .relative => "relative"

/-- The gutters that come with the editor. -/
inductive GutterKind where
  | diagnostics
  | lineNumbers
  | breakpoints
  deriving DecidableEq, Repr

namespace GutterKind

/-- The name of a gutter. -/
def name : GutterKind → String
  | .diagnostics => "diagnostics"
  | .lineNumbers => "line-numbers"
  | .breakpoints => "breakpoints"

/-- The name of a gutter as a text. -/
def text (k : GutterKind) : Text := ofString k.name

/-- Every gutter that comes with the editor. -/
def all : List GutterKind := [.diagnostics, .lineNumbers, .breakpoints]

/-- The gutter with the given name. -/
def ofText? (t : Text) : Option GutterKind := all.find? fun k => k.text = t

end GutterKind

/-- A column that a configuration asks for. -/
structure ColumnConfig where
  kind : GutterKind
  /-- The cells reserved for the column. -/
  width : Nat
  width_pos : 0 < width
  deriving DecidableEq, Repr

/-- How the gutter is made up. -/
structure Config where
  numbering : NumberingMode
  columns : List ColumnConfig
  deriving DecidableEq, Repr

namespace Config

/-- Absolute numbers in five cells, with diagnostics in one cell before them. -/
def default : Config where
  numbering := .absolute
  columns := [⟨.diagnostics, 1, Nat.one_pos⟩, ⟨.lineNumbers, 5, by decide⟩]

instance : Inhabited Config := ⟨default⟩

/-! ### Keys -/

/-- The member that holds the numbering mode. -/
def numberingKey : Text := ofString "lineNumber"

/-- The member that holds the columns. -/
def columnsKey : Text := ofString "gutters"

/-- The member of a column that holds its kind. -/
def kindKey : Text := ofString "type"

/-- The member of a column that holds its width. -/
def widthKey : Text := ofString "width"

/-- The key of the whole configuration in a fault. -/
def rootKey : Text := ofString "(root)"

/-- The key of the column at an index in a fault. -/
def columnKey (i : Nat) : Text := columnsKey ++ ofString "[" ++ ofNat i ++ ofString "]"

/-- The key of a member of the column at an index in a fault. -/
def columnMemberKey (i : Nat) (member : Text) : Text := columnKey i ++ ofString "." ++ member

/-! ### Entries -/

/-- The numbering mode that a value names. -/
def readNumbering (v : Value) : Except Fault NumberingMode :=
  match v with
  | .text t =>
    if t = ofString "absolute" then .ok .absolute
    else if t = ofString "relative" then .ok .relative
    else .error (.config numberingKey (.expectedNumbering v.compact))
  | _ => .error (.config numberingKey (.expectedNumbering v.compact))

/-- The gutter that a member of a column names. -/
def readKind (i : Nat) (v : Option Value) : Except Fault GutterKind :=
  match v with
  | some (.text t) =>
    match GutterKind.ofText? t with
    | some k => .ok k
    | none => unknown
  | _ => unknown
where
  /-- The fault of a kind that is not known. -/
  unknown : Except Fault GutterKind :=
    .error (.config (columnMemberKey i kindKey) (.expectedGutter (GutterKind.all.map (·.text))))

/-- The width that a member of a column gives. -/
def readWidth (i : Nat) (v : Option Value) : Except Fault { n : Nat // 0 < n } :=
  match v with
  | some (.number n) =>
    match n.toPositive? with
    | some width => .ok width
    | none => .error (.config (columnMemberKey i widthKey) .expectedPositive)
  | _ => .error (.config (columnMemberKey i widthKey) .expectedPositive)

/-- The column that a value describes. -/
def readColumn (i : Nat) (v : Value) : Except Fault ColumnConfig :=
  match v with
  | .object members => do
    let kind ← readKind i (Record.find? kindKey members)
    let ⟨width, width_pos⟩ ← readWidth i (Record.find? widthKey members)
    return ⟨kind, width, width_pos⟩
  | _ => .error (.config (columnKey i) .expectedColumn)

/-- The columns that the values from index `i` on describe. -/
def readColumnsFrom (i : Nat) : List Value → Except Fault (List ColumnConfig)
  | [] => .ok []
  | v :: rest => do
    let column ← readColumn i v
    let columns ← readColumnsFrom (i + 1) rest
    return column :: columns

/-- The columns that a value lists. -/
def readColumns (v : Value) : Except Fault (List ColumnConfig) :=
  match v with
  | .array items => readColumnsFrom 0 items
  | _ => .error (.config columnsKey .expectedArray)

/-! ### Configurations -/

/-- What a member holds, or the default where there is none. -/
def readMember {α : Type} (read : Value → Except Fault α) (fallback : α) (key : Text)
    (members : List (Text × Value)) : Except Fault α :=
  match Record.find? key members with
  | some v => read v
  | none => .ok fallback

/-- The configuration that a value describes; no value and null stand for the default. -/
def resolve (raw : Option Value) : Except Fault Config :=
  match raw with
  | none | some .null => .ok default
  | some (.object members) => do
    let numbering ← readMember readNumbering default.numbering numberingKey members
    let columns ← readMember readColumns default.columns columnsKey members
    return ⟨numbering, columns⟩
  | some _ => .error (.config rootKey .expectedObject)

/-- The value that describes a column. -/
def columnToValue (c : ColumnConfig) : Value :=
  .object [(kindKey, .text c.kind.text), (widthKey, .number c.width)]

/-- The value that describes a configuration in full. -/
def toValue (c : Config) : Value :=
  .object
    [(numberingKey, .text (ofString c.numbering.name)),
     (columnsKey, .array (c.columns.map columnToValue))]

/-- The names of the members of a value that mean nothing in a configuration. -/
def unknownKeys (raw : Option Value) : List Text :=
  match raw with
  | some (.object members) =>
    ((Record.entries members).map Prod.fst).filter fun key =>
      key ≠ numberingKey ∧ key ≠ columnsKey
  | _ => []

/-- What is reported about a configuration: each member that means nothing. -/
def resolveRecords (raw : Option Value) : List Log.Record :=
  (unknownKeys raw).map fun key =>
    Log.record (ofString "config") .warn
      [.text (ofString "Ignoring unknown config key " ++ quoted key)]

end Config

end EditorGutter
