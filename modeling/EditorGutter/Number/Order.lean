import EditorGutter.Number.Basic

/-!
Comparing numbers.

Two equalities are in use.  Structural equality takes NaN to be equal to itself, and is what
tables are keyed by; `Number.equals` is the numeric comparison, in which NaN equals nothing.  NaN
is below nothing and nothing is below it, and the smaller and the larger of two values are NaN if
either is.  Among whole values the order is that of the integers (`intCast_lt_intCast`).
-/
namespace EditorGutter

namespace Number

/-- Whether `a` is below `b`; NaN is below nothing and nothing is below it. -/
def below : Number → Number → Bool
  | .finite a, .finite b => decide (a < b)
  | .negInf, .finite _ => true
  | .negInf, .posInf => true
  | .finite _, .posInf => true
  | _, _ => false

/-- Numeric equality, in which NaN equals nothing. -/
def equals (a b : Number) : Bool :=
  decide (a ≠ .nan) && decide (a = b)

instance : LT Number := ⟨fun a b => below a b = true⟩

instance : LE Number := ⟨fun a b => (below a b || equals a b) = true⟩

instance (a b : Number) : Decidable (a < b) := inferInstanceAs (Decidable (below a b = true))

instance (a b : Number) : Decidable (a ≤ b) :=
  inferInstanceAs (Decidable ((below a b || equals a b) = true))

theorem finite_lt_finite {a b : Rat} : (.finite a : Number) < .finite b ↔ a < b := by
  show decide (a < b) = true ↔ a < b
  simp

theorem finite_le_finite {a b : Rat} : (.finite a : Number) ≤ .finite b ↔ a ≤ b := by
  show (decide (a < b) || equals (.finite a) (.finite b)) = true ↔ a ≤ b
  simp only [equals, ne_eq, reduceCtorEq, not_false_eq_true, decide_true, Bool.true_and,
    Number.finite.injEq, Bool.or_eq_true, decide_eq_true_eq]
  exact Rat.le_iff_lt_or_eq.symm

theorem not_nan_lt (x : Number) : ¬ nan < x := by
  cases x <;> exact Bool.false_ne_true

theorem not_le_nan (x : Number) : ¬ x ≤ nan := by
  cases x <;> exact Bool.false_ne_true

protected theorem le_trans {a b c : Number} (hab : a ≤ b) (hbc : b ≤ c) : a ≤ c := by
  cases a <;> cases b <;> cases c <;>
    first
    | exact finite_le_finite.2 (Rat.le_trans (finite_le_finite.1 hab) (finite_le_finite.1 hbc))
    | rfl
    | exact absurd (show false = true from hab) Bool.false_ne_true
    | exact absurd (show false = true from hbc) Bool.false_ne_true

theorem intCast_lt_intCast {i j : Int} : (i : Number) < (j : Number) ↔ i < j :=
  finite_lt_finite.trans Rat.intCast_lt_intCast

theorem intCast_le_intCast {i j : Int} : (i : Number) ≤ (j : Number) ↔ i ≤ j :=
  finite_le_finite.trans Rat.intCast_le_intCast

theorem natCast_lt_natCast {m n : Nat} : (m : Number) < (n : Number) ↔ m < n :=
  finite_lt_finite.trans Rat.natCast_lt_natCast

theorem natCast_le_natCast {m n : Nat} : (m : Number) ≤ (n : Number) ↔ m ≤ n :=
  finite_le_finite.trans Rat.natCast_le_natCast

theorem not_neg_natCast (n : Nat) : ¬ (n : Number) < 0 :=
  fun h => Nat.not_lt_zero n (natCast_lt_natCast.1 h)

theorem natCast_inj {m n : Nat} : (m : Number) = (n : Number) ↔ m = n := by
  show Number.finite _ = Number.finite _ ↔ _
  rw [Number.finite.injEq]
  exact Rat.natCast_inj

theorem equals_iff {a b : Number} : a.equals b = true ↔ a = b ∧ a ≠ .nan := by
  simp only [equals, Bool.and_eq_true, decide_eq_true_eq]
  exact And.comm

theorem equals_natCast {m n : Nat} : (m : Number).equals (n : Number) = true ↔ m = n := by
  rw [equals_iff, natCast_inj]
  exact and_iff_left nofun

theorem equals_comm (a b : Number) : a.equals b = b.equals a := by
  rw [Bool.eq_iff_iff, equals_iff, equals_iff]
  constructor
  · rintro ⟨rfl, ha⟩
    exact ⟨rfl, ha⟩
  · rintro ⟨rfl, hb⟩
    exact ⟨rfl, hb⟩

/-- The smaller of two values, NaN if either is. -/
protected def min (a b : Number) : Number :=
  if a = .nan ∨ b = .nan then .nan else if a ≤ b then a else b

/-- The larger of two values, NaN if either is. -/
protected def max (a b : Number) : Number :=
  if a = .nan ∨ b = .nan then .nan else if a ≤ b then b else a

/-- `x` held between zero and `high`, the lower bound winning. -/
def clampTo (high x : Number) : Number :=
  Number.max 0 (Number.min x high)

theorem min_natCast (m n : Nat) :
    Number.min (m : Number) (n : Number) = ((min m n : Nat) : Number) := by
  have hm : (m : Number) ≠ .nan := nofun
  have hn : (n : Number) ≠ .nan := nofun
  unfold Number.min
  simp only [hm, hn, or_self, ↓reduceIte, natCast_le_natCast]
  split
  · next h => rw [Nat.min_eq_left h]
  · next h => rw [Nat.min_eq_right (Nat.le_of_not_le h)]

theorem max_zero_intCast (i : Int) : Number.max 0 (i : Number) = ((i.toNat : Nat) : Number) := by
  have hzero : (0 : Number) = ((0 : Int) : Number) := (intCast_natCast 0).symm
  have h0 : ((0 : Int) : Number) ≠ .nan := nofun
  have hi : (i : Number) ≠ .nan := nofun
  unfold Number.max
  rw [hzero]
  simp only [h0, hi, or_self, ↓reduceIte, intCast_le_intCast]
  split
  · next h => rw [← intCast_natCast, Int.toNat_of_nonneg h]
  · next h => rw [Int.toNat_of_nonpos (Int.le_of_not_le h)]; rfl

end Number

end EditorGutter
