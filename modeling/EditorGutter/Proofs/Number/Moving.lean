import EditorGutter.Number.Count
import EditorGutter.Proofs.Number.Clamping
import EditorGutter.Proofs.Number.Rounding

/-!
Moving a value by a count.

A place is moved exactly and any other value by rounded addition (`Number.moveBy_cases`).  What the
two have in common is stated here: moved up, a value that is not below zero stays so
(`not_neg_moveBy`), and moved back by one, a value that is not past a count is below it
(`not_le_moveBy_neg_one`).  Past the whole values of binary64 rounding could undo the second, so
fractions have to lie among those that binary64 has (`le_wholeLimit_of_moveBy`).

Rounding keeps order, so it commutes with taking the smaller value (`min_round`).  A bound that
rounding leaves alone hides what it does to larger values (`min_round_natCast`).
-/
namespace EditorGutter

namespace Number

variable {x high : Number}

/-! ### Bounds of moved values -/

theorem not_neg_moveBy (hx : ¬ x < 0) (high : Number) (n : Nat) : ¬ x.moveBy high n < 0 := by
  rcases moveBy_cases x high n with ⟨i, -, -, hmove⟩ | ⟨-, hmove⟩
  · rw [hmove]
    exact not_neg_natCast (i + n)
  · rw [hmove, intCast_natCast]
    exact not_neg_add hx (not_neg_natCast n)

/-- A fraction that a value is moved to lies among the values that have fractions. -/
theorem le_wholeLimit_of_moveBy {n : Nat} {q : Rat} (h : x.moveBy high n = .finite q)
    (hfrac : ∀ i : Int, q ≠ i) : q ≤ wholeLimit := by
  rcases moveBy_cases x high n with ⟨i, -, -, hmove⟩ | ⟨-, hmove⟩
  · rw [hmove] at h
    exact absurd (Number.finite.inj h).symm (hfrac _)
  · rw [hmove, intCast_natCast] at h
    cases x with
    | finite a => exact le_wholeLimit_of_not_whole h hfrac
    | nan | posInf | negInf => cases h

/-- Among the values that have fractions, what is not past a count is below it after one is taken
away: it is rounded to no more than a count that is below both bounds. -/
theorem not_le_add_neg_one {n : Nat} {q : Rat} (hn : 0 < n) (hq : q ≤ n) (hsmall : q ≤ wholeLimit) :
    ¬ (n : Number) ≤ .finite q + ((-1 : Int) : Number) := by
  have hm : q + ((-1 : Int) : Rat) ≤ (min (n - 1) wholeLimit : Nat) := by
    rw [Nat.cast_min, Nat.cast_pred hn, le_min_iff]
    push_cast
    constructor <;> linarith
  have hround := round_mono hm
  rw [round_natCast (Nat.min_le_right _ _)] at hround
  intro h
  have := natCast_le_natCast.mp (Number.le_trans h hround)
  omega

/-- What is not past a count is below it when it is moved back by one, if it is whole or lies among
the values that have fractions. -/
theorem not_le_moveBy_neg_one {n : Nat} (hn : 0 < n) (hx : x ≤ (n : Number))
    (hlimit : ∀ q, x = .finite q → (∀ i : Int, q ≠ i) → q ≤ wholeLimit) :
    ¬ (n : Number) ≤ x.moveBy n (-1) := by
  rcases moveBy_cases x n (-1) with ⟨i, rfl, -, hmove⟩ | ⟨hnot, hmove⟩
  · have hi : i ≤ n := natCast_le_natCast.mp hx
    rw [hmove, ← intCast_natCast, intCast_le_intCast]
    omega
  · rw [hmove]
    cases x with
    | nan => exact not_le_nan _
    | posInf => exact absurd hx Bool.false_ne_true
    | negInf => exact Bool.false_ne_true
    | finite q =>
      refine not_le_add_neg_one hn (finite_le_finite.mp hx) ?_
      by_cases hwhole : ∃ i : Int, q = i
      · -- it is not a place, so it is below zero
        obtain ⟨i, rfl⟩ := hwhole
        rcases le_total 0 i with hi | hi
        · obtain ⟨k, rfl⟩ := Int.eq_ofNat_of_zero_le hi
          exact absurd hx (hnot k (intCast_natCast k))
        · exact le_trans (by exact_mod_cast hi) (Nat.cast_nonneg wholeLimit)
      · exact hlimit q rfl (not_exists.mp hwhole)

/-! ### Smaller values and rounding -/

theorem min_round (a b : Rat) : Number.min (round a) (round b) = round (min a b) := by
  rcases le_total a b with h | h
  · rw [min_eq_left h, min_eq_left_of_le (round_mono h)]
  · rw [min_eq_right h, min_eq_right_of_le (round_mono h)]

/-- Next to a bound that rounding leaves alone it does not matter whether a count is rounded. -/
theorem min_round_natCast {n : Nat} (hn : n ≤ wholeLimit) (m : Nat) :
    Number.min (round (m : Rat)) (n : Number) = Number.min (m : Number) (n : Number) := by
  calc Number.min (round (m : Rat)) (n : Number)
      = Number.min (round (m : Rat)) (round (n : Rat)) := by rw [round_natCast hn]
    _ = round ((min m n : Nat) : Rat) := by rw [min_round, Nat.cast_min]
    _ = Number.min (m : Number) (n : Number) := by
        rw [round_natCast (Nat.le_trans (Nat.min_le_right m n) hn), min_natCast]

end Number

end EditorGutter
