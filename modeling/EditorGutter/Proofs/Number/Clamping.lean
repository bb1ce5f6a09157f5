import EditorGutter.Number.Order
import Mathlib.Algebra.Order.Ring.Rat
import Mathlib.Data.Nat.Cast.Order.Ring

/-!
Smaller, larger and held values.

Among finite values they are those of the rationals (`min_finite`, `max_finite`).  Holding a value
first below one length and then below another is holding it below the smaller of the two
(`clampTo_clampTo`), for every number, NaN and the infinities included; a whole value is held at a
count (`clampTo_intCast`).
-/
namespace EditorGutter

namespace Number

/-- Among finite values the smaller is that of the rationals. -/
theorem min_finite (a b : Rat) : Number.min (.finite a) (.finite b) = .finite (min a b) := by
  show (if Number.finite a ≤ .finite b then _ else _) = _
  rw [min_def]
  simp only [finite_le_finite]
  split
  · rfl
  · rfl

/-- Among finite values the larger is that of the rationals. -/
theorem max_finite (a b : Rat) : Number.max (.finite a) (.finite b) = .finite (max a b) := by
  show (if Number.finite a ≤ .finite b then _ else _) = _
  rw [max_def]
  simp only [finite_le_finite]
  split
  · rfl
  · rfl

/-- The smaller of two values is NaN or one of them. -/
theorem min_cases (x y : Number) :
    Number.min x y = .nan ∨ x ≤ y ∧ Number.min x y = x ∨ Number.min x y = y := by
  by_cases hnan : x = .nan ∨ y = .nan
  · exact .inl (if_pos hnan)
  · have hmin : Number.min x y = if x ≤ y then x else y := if_neg hnan
    by_cases hle : x ≤ y
    · exact .inr (.inl ⟨hle, hmin.trans (if_pos hle)⟩)
    · exact .inr (.inr (hmin.trans (if_neg hle)))

theorem min_eq_left_of_le {x y : Number} (h : x ≤ y) : Number.min x y = x := by
  cases x <;> cases y <;>
    first
    | exact (min_finite _ _).trans (congrArg finite (min_eq_left (finite_le_finite.mp h)))
    | rfl
    | exact absurd (show false = true from h) Bool.false_ne_true

theorem min_eq_right_of_le {x y : Number} (h : y ≤ x) : Number.min x y = y := by
  cases x <;> cases y <;>
    first
    | exact (min_finite _ _).trans (congrArg finite (min_eq_right (finite_le_finite.mp h)))
    | rfl
    | exact absurd (show false = true from h) Bool.false_ne_true

theorem max_zero_finite (q : Rat) : Number.max 0 (.finite q) = .finite (max 0 q) := by
  show Number.max (.finite ((0 : Nat) : Rat)) _ = _
  rw [max_finite, Nat.cast_zero]

/-- A finite value is held by the order of the rationals. -/
theorem clampTo_finite (q : Rat) (n : Nat) :
    (Number.finite q).clampTo n = .finite (max 0 (min n q)) := by
  show Number.max 0 (Number.min (.finite (n : Rat)) (.finite q)) = _
  rw [min_finite, max_zero_finite]

@[simp] theorem zero_clampTo (n : Nat) : (0 : Number).clampTo n = 0 := by
  have hn : (0 : Rat) ≤ n := by exact_mod_cast Nat.zero_le n
  show (Number.finite ((0 : Nat) : Rat)).clampTo n = .finite ((0 : Nat) : Rat)
  rw [clampTo_finite, Nat.cast_zero, min_eq_right hn, max_self]

theorem clampTo_posInf (n : Nat) : (Number.posInf).clampTo n = (n : Number) := by
  show (Number.max 0 (n : Number)) = n
  rw [← intCast_natCast, max_zero_intCast, Int.toNat_natCast, intCast_natCast]

/-- Held below two lengths in turn, a value is held below the smaller one. -/
theorem clampTo_clampTo (x : Number) (m n : Nat) :
    (x.clampTo m).clampTo n = x.clampTo ((min m n : Nat) : Number) := by
  have hm : (0 : Rat) ≤ m := by exact_mod_cast Nat.zero_le m
  have hn : (0 : Rat) ≤ n := by exact_mod_cast Nat.zero_le n
  cases x with
  | nan => rfl
  | negInf => exact zero_clampTo n
  | posInf =>
    rw [clampTo_posInf, clampTo_posInf]
    show (Number.finite (m : Rat)).clampTo n = .finite _
    rw [clampTo_finite, Nat.cast_min, min_comm (n : Rat), max_eq_right (le_min hm hn)]
  | finite q =>
    rw [clampTo_finite, clampTo_finite, clampTo_finite, Nat.cast_min]
    congr 1
    calc max 0 (min (n : Rat) (max 0 (min (m : Rat) q)))
        = max 0 (max (min (n : Rat) 0) (min (n : Rat) (min (m : Rat) q))) := by
          rw [min_max_distrib_left]
      _ = max 0 (min (n : Rat) (min (m : Rat) q)) := by rw [min_eq_right hn, ← max_assoc, max_self]
      _ = max 0 (min (min (m : Rat) (n : Rat)) q) := by rw [← min_assoc, min_comm (n : Rat)]

/-- A whole value is held at a count. -/
theorem clampTo_intCast (i : Int) (n : Nat) :
    (i : Number).clampTo n = ((min n i.toNat : Nat) : Number) := by
  show (Number.finite (i : Rat)).clampTo n = .finite _
  rw [clampTo_finite, Nat.cast_min]
  congr 1
  have hn : (0 : Rat) ≤ n := by exact_mod_cast Nat.zero_le n
  rcases le_total 0 i with hi | hi
  · obtain ⟨k, rfl⟩ := Int.eq_ofNat_of_zero_le hi
    rw [Int.toNat_natCast, Int.cast_natCast]
    exact max_eq_right (le_min hn (by exact_mod_cast hi))
  · have hi' : (i : Rat) ≤ 0 := by exact_mod_cast hi
    rw [Int.toNat_of_nonpos hi, Nat.cast_zero, min_eq_right hn]
    exact max_eq_left ((min_le_right _ _).trans hi')

/-- A whole value is held at a count no larger than the bound. -/
theorem exists_clampTo_intCast (i : Int) (n : Nat) :
    ∃ k : Nat, k ≤ n ∧ (i : Number).clampTo n = (k : Number) :=
  ⟨min n i.toNat, Nat.min_le_left _ _, clampTo_intCast i n⟩

end Number

end EditorGutter
