import EditorGutter.Gutter.Basic
import EditorGutter.Measure
import EditorGutter.Number.Count

/-!
The columns of a gutter: which gutters stand beside the text, in which order and width.

A column has a positive width by construction.  Adding refuses any other width and names the
column in the fault; removing takes every column of a name.  The widths add up to their exact sum
(`totalWidth_eq`) as long as that is a whole value that binary64 can tell from its neighbours.
-/
namespace EditorGutter

/-- A gutter with its name and the cells reserved for it. -/
structure Column where
  name : Text
  gutter : Gutter
  width : Nat
  width_pos : 0 < width

/-- The columns of a gutter, from left to right. -/
structure Columns where
  columns : List Column := []

namespace Columns

/-- The cells that all columns take together, added up from the left. -/
def totalWidth (cs : Columns) : Number :=
  cs.columns.foldl (fun sum c => sum + (c.width : Number)) 0

/-- The columns with one more at the right. -/
def add (cs : Columns) (name : Text) (gutter : Gutter) (width : Number) : Except Fault Columns :=
  match width.toPositive? with
  | some ⟨n, n_pos⟩ => .ok ⟨cs.columns ++ [⟨name, gutter, n, n_pos⟩]⟩
  | none => .error (.range (.columnWidth name width))

/-- The columns without those of a name. -/
def remove (cs : Columns) (name : Text) : Columns :=
  ⟨cs.columns.filter fun c => c.name ≠ name⟩

/-- Whether some column has a name. -/
def has (cs : Columns) (name : Text) : Bool := cs.columns.any fun c => c.name = name

/-- The columns with more gutters of the editor at the right, each named for itself. -/
def addBuiltins (cs : Columns) : List (GutterKind × Number) → Except Fault Columns
  | [] => .ok cs
  | (kind, width) :: rest => do
    let cs ← cs.add kind.text (.builtin kind) width
    cs.addBuiltins rest

/-- The columns that a configuration asks for. -/
def ofConfig (config : Config) : Except Fault Columns :=
  addBuiltins {} (config.columns.map fun c => (c.kind, (c.width : Number)))

theorem foldl_width {columns : List Column} {n : Nat}
    (h : n + total Column.width columns ≤ Number.wholeLimit) :
    columns.foldl (fun sum c => sum + (c.width : Number)) (n : Number) =
      ((n + total Column.width columns : Nat) : Number) := by
  induction columns generalizing n with
  | nil => rfl
  | cons c rest ih =>
    rw [total_cons, ← Nat.add_assoc] at h
    rw [List.foldl_cons, Number.add_natCast (Nat.le_trans (Nat.le_add_right _ _) h), ih h,
      total_cons, Nat.add_assoc]

/-- Widths that can be told apart as whole values add up exactly. -/
theorem totalWidth_eq {cs : Columns} (h : total Column.width cs.columns ≤ Number.wholeLimit) :
    cs.totalWidth = ((total Column.width cs.columns : Nat) : Number) := by
  have := @foldl_width cs.columns 0 (by rwa [Nat.zero_add])
  rwa [Nat.zero_add] at this

end Columns

end EditorGutter
