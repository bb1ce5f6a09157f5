/-!
Sums of a measure over a list: widths of columns and clusters, sizes of code points.
-/
namespace EditorGutter

variable {α : Type}

/-- The sum of a measure over a list. -/
def total (measure : α → Nat) : List α → Nat
  | [] => 0
  | a :: rest => measure a + total measure rest

@[simp] theorem total_nil (measure : α → Nat) : total measure [] = 0 := rfl

@[simp] theorem total_cons (measure : α → Nat) (a : α) (rest : List α) :
    total measure (a :: rest) = measure a + total measure rest := rfl

theorem total_append (measure : α → Nat) (as bs : List α) :
    total measure (as ++ bs) = total measure as + total measure bs := by
  induction as with
  | nil => simp
  | cons a as ih => simp only [List.cons_append, total_cons, ih, Nat.add_assoc]

end EditorGutter
