import EditorGutter.Number.Basic

/-!
Numbers as words of 32 bits, on which bitwise operations work.
-/
namespace EditorGutter

namespace Number

/-- The 32-bit word that a value stands for in bitwise operations: its whole part modulo
`2 ^ 32`, and zero for NaN and the infinities. -/
def toWord : Number → BitVec 32
  | .finite q => BitVec.ofInt 32 (truncRat q)
  | _ => 0

/-- The signed value of a word. -/
def ofWord (w : BitVec 32) : Number := (w.toInt : Number)

@[simp] theorem toWord_ofWord (w : BitVec 32) : (ofWord w).toWord = w := by
  show BitVec.ofInt 32 (truncRat (w.toInt : Rat)) = w
  have : truncRat (w.toInt : Rat) = w.toInt := by
    unfold truncRat; split <;> simp
  rw [this, BitVec.ofInt_toInt]

end Number

end EditorGutter
