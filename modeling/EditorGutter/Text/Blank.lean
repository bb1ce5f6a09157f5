import EditorGutter.Text.Basic

/-!
Blank characters at the ends of a text.

A unit is blank if it is white space or a line terminator: the ASCII ones, the space separators
of Unicode, the two separators of lines and paragraphs, and the byte order mark.  The next line
control (U+0085), the vowel separator U+180E and the zero-width space U+200B are not.
-/
namespace EditorGutter

namespace Text

/-- White space and line terminators. -/
def isBlank (u : UInt16) : Bool :=
  (0x09 ≤ u && u ≤ 0x0D) || u == 0x20 || u == 0xA0 || u == 0x1680 || (0x2000 ≤ u && u ≤ 0x200A)
    || u == 0x2028 || u == 0x2029 || u == 0x202F || u == 0x205F || u == 0x3000 || u == 0xFEFF

/-- The text without the blanks at its start. -/
def trimStart (t : Text) : Text := t.dropWhile isBlank

/-- The text without the blanks at its end. -/
def trimEnd (t : Text) : Text := (t.reverse.dropWhile isBlank).reverse

/-- The text without the blanks at its ends. -/
def trim (t : Text) : Text := trimEnd (trimStart t)

theorem isBlank_of_isWhitespace {c : Char} (h : c.isWhitespace = true) :
    isBlank (UInt16.ofNat c.toNat) = true := by
  simp only [Char.isWhitespace, Bool.or_eq_true, decide_eq_true_eq] at h
  rcases h with ((rfl | rfl) | rfl) | rfl <;> decide

end Text

end EditorGutter
