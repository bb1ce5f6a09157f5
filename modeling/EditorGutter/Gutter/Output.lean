import EditorGutter.Gutter.Basic

/-!
The output that gutters write to.

All gutters of a frame write to one output, which is cleared before each call.  A call adds to
whatever the output holds, so clearing is what keeps the texts of two calls apart.
-/
namespace EditorGutter

/-- The text written since the output was last cleared. -/
structure Output where
  text : Text := []
  deriving DecidableEq, Repr

namespace Output

/-- The output with a text added at its end. -/
def write (t : Text) (out : Output) : Output := ⟨out.text ++ t⟩

/-- The output without text. -/
def clear (_ : Output) : Output := {}

@[simp] theorem text_write (t : Text) (out : Output) : (out.write t).text = out.text ++ t := rfl

@[simp] theorem text_clear (out : Output) : out.clear.text = [] := rfl

end Output

/-- A call of a bound gutter: the style that it returns, and the output with what it wrote. -/
def LineRenderer.call (draw : LineRenderer) (line : Number) (selected : Bool) (out : Output) :
    Option Style × Output :=
  let mark := draw line selected
  (mark.style, out.write mark.text)

end EditorGutter
