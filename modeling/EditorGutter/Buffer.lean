import EditorGutter.Text.LineIndex

/-!
Buffers: the text of a document with its lines.

A buffer holds its text with line feeds as the only line breaks.  A trailing line feed opens an
empty last line, and an empty buffer still has one line.  Queries about lines take any number:
lines outside of the document answer as `LineIndex` does, and byte offsets are counted in UTF-8.
-/
namespace EditorGutter

namespace Text

/-- The units between two offsets, whichever comes first; offsets outside of the text are moved
to its nearer end, and without an end the text is taken to its own. -/
def between (t : Text) (start : Number) (stop : Option Number) : Text :=
  let i := start.toPosition t.length
  let j := match stop with
    | some n => n.toPosition t.length
    | none => t.length
  (t.take (max i j)).drop (min i j)

end Text

/-- A text whose line breaks are line feeds. -/
structure Buffer where
  text : Text
  deriving DecidableEq

namespace Buffer

/-- The buffer that holds a text, its line breaks normalized. -/
def ofText (t : Text) : Buffer := ⟨t.normalizeBreaks⟩

/-- The buffer without text. -/
def empty : Buffer := ofText []

instance : Inhabited Buffer := ⟨empty⟩

variable (b : Buffer)

/-- The buffer with another text, its line breaks normalized. -/
def setText (_ : Buffer) (t : Text) : Buffer := ⟨t.normalizeBreaks⟩

/-- The line starts of the buffer. -/
def index : LineIndex := LineIndex.ofText b.text

/-- The number of lines. -/
def lineCount : Nat := b.index.count

/-- The number of units. -/
def length : Nat := b.text.length

/-- The number of bytes in UTF-8. -/
def byteLength : Nat := b.text.utf8Size

/-- The offset at which a line starts. -/
def lineOffset? (line : Number) : Option Nat := b.index.start? line

/-- The line that holds an offset. -/
def lineAt (offset : Number) : Nat := b.index.lineAt offset

/-- The offset at which the text of a line ends, before its line feed. -/
def lineStop (line : Number) : Number :=
  if line.moveBy b.lineCount 1 < b.lineCount then
    match b.lineOffset? (line.moveBy b.lineCount 1) with
    | some next => (next - 1 : Nat)
    | none => .nan
  else b.length

/-- The text of a line without its line feed; no text for a line outside of the buffer. -/
def line (n : Number) : Text :=
  if n < 0 ∨ (b.lineCount : Number) ≤ n then []
  else b.text.between ((b.lineOffset? n).getD 0 : Nat) (some (b.lineStop n))

/-- The number of units of a line without its line feed. -/
def lineLength (n : Number) : Nat := (b.line n).length

/-- The number of bytes in UTF-8 before a line; all of them if the line is none. -/
def lineByteOffset (n : Number) : Nat :=
  Text.utf8Size (b.text.take ((b.lineOffset? n).getD b.length))

/-- The text between two offsets. -/
def between (start : Number) (stop : Option Number) : Text := b.text.between start stop

theorem setText_eq (t : Text) : b.setText t = ofText t := rfl

/-- With another text, the line starts are those of the table that is filled again for it. -/
theorem index_setText (t : Text) : (b.setText t).index = b.index.rebuild (b.setText t).text :=
  (LineIndex.rebuild_eq _ _).symm

theorem lineCount_pos : 0 < b.lineCount := b.index.count_pos

theorem lineAt_lt_lineCount (offset : Number) : b.lineAt offset < b.lineCount :=
  b.index.lineAt_lt_count offset

theorem lineCount_ofText (t : Text) :
    (ofText t).lineCount = t.normalizeBreaks.count Text.lineFeed + 1 :=
  LineIndex.count_ofText _

end Buffer

end EditorGutter
