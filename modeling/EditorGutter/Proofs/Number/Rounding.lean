import EditorGutter.Number.Order
import Mathlib.Algebra.Order.Field.Power
import Mathlib.Data.Rat.Floor
import Mathlib.Tactic.FieldSimp
import Mathlib.Tactic.Linarith
import Mathlib.Tactic.Positivity
import Mathlib.Tactic.Ring

/-!
The theory of `Number.round`.

Rounding moves a rational to the grid of its last mantissa bit (`toGrid`) and cuts off what is out
of range (`saturate`); whole values up to `2 ^ 53` take no separate path (`round_eq_saturate`).

Main results: rounding keeps order (`round_mono`) and a whole value stays whole or becomes
infinite (`round_intCast_cases`).  The key to the first is that two rationals with different grids
have a power of two between them, which lies on both grids.
-/
namespace EditorGutter

namespace Number

/-! ### The nearest integer -/

theorem roundHalfEven_cases (q : Rat) :
    roundHalfEven q = q.floor ∨ (roundHalfEven q = q.floor + 1 ∧ 1 / 2 ≤ q - q.floor) := by
  unfold roundHalfEven
  dsimp only
  split
  · exact .inl rfl
  · next h =>
    have h' : 1 / 2 ≤ q - q.floor := not_lt.mp h
    split
    · exact .inr ⟨rfl, h'⟩
    · split
      · exact .inl rfl
      · exact .inr ⟨rfl, h'⟩

@[simp] theorem roundHalfEven_intCast (i : Int) : roundHalfEven (i : Rat) = i := by
  simp [roundHalfEven]

theorem roundHalfEven_mono {a b : Rat} (h : a ≤ b) : roundHalfEven a ≤ roundHalfEven b := by
  have hfloor := Rat.floor_monotone h
  rcases lt_or_eq_of_le hfloor with hlt | heq
  · -- an integer lies between the two
    rcases roundHalfEven_cases a with ha | ⟨ha, -⟩ <;>
      rcases roundHalfEven_cases b with hb | ⟨hb, -⟩ <;> omega
  · -- within one unit the fractional parts decide
    have hrest : a - a.floor ≤ b - a.floor := by linarith
    unfold roundHalfEven
    rw [← heq]
    dsimp only
    split_ifs <;> first | omega | (exfalso; linarith)

theorem le_roundHalfEven {i : Int} {q : Rat} (h : (i : Rat) ≤ q) : i ≤ roundHalfEven q := by
  simpa using roundHalfEven_mono h

theorem roundHalfEven_le {i : Int} {q : Rat} (h : q ≤ (i : Rat)) : roundHalfEven q ≤ i := by
  simpa using roundHalfEven_mono h

theorem floor_neg_of_ne {q : Rat} (h : (q.floor : Rat) ≠ q) : (-q).floor = -q.floor - 1 := by
  have hlow := Rat.floor_le q
  have hhigh := Rat.lt_floor_add_one q
  have hlt : (q.floor : Rat) < q := lt_of_le_of_ne hlow h
  push_cast at hhigh
  refine le_antisymm ?_ (Rat.le_floor_iff.mpr ?_)
  · have : (-q).floor < -q.floor := Rat.floor_lt_iff.mpr (by push_cast; linarith)
    omega
  · push_cast
    linarith

theorem roundHalfEven_neg (q : Rat) : roundHalfEven (-q) = -roundHalfEven q := by
  by_cases h : (q.floor : Rat) = q
  · rw [← h, ← Rat.intCast_neg, roundHalfEven_intCast, roundHalfEven_intCast]
  · have hfloor := floor_neg_of_ne h
    unfold roundHalfEven
    rw [hfloor]
    push_cast
    split_ifs <;> first | omega | (exfalso; linarith)

/-! ### Powers of two -/

theorem pow2_eq_zpow (e : Int) : pow2 e = (2 : Rat) ^ e := by
  unfold pow2
  split
  · next h =>
    obtain ⟨n, rfl⟩ := Int.eq_ofNat_of_zero_le h
    simp
  · next h =>
    obtain ⟨n, rfl⟩ : ∃ n : Nat, e = -n := ⟨(-e).toNat, by omega⟩
    simp

theorem pow2_pos (e : Int) : 0 < pow2 e := by
  rw [pow2_eq_zpow]
  positivity

theorem pow2_le_pow2 {e f : Int} : pow2 e ≤ pow2 f ↔ e ≤ f := by
  rw [pow2_eq_zpow, pow2_eq_zpow]
  exact zpow_le_zpow_iff_right₀ (by norm_num)

theorem pow2_lt_pow2 {e f : Int} : pow2 e < pow2 f ↔ e < f := by
  rw [pow2_eq_zpow, pow2_eq_zpow]
  exact zpow_lt_zpow_iff_right₀ (by norm_num)

theorem pow2_add (e f : Int) : pow2 (e + f) = pow2 e * pow2 f := by
  simp only [pow2_eq_zpow]
  exact zpow_add₀ (by norm_num) e f

theorem pow2_zero : pow2 0 = 1 := by norm_num [pow2]

theorem pow2_natCast (n : Nat) : pow2 n = ((2 ^ n : Nat) : Rat) := by
  rw [pow2_eq_zpow]
  push_cast
  exact zpow_natCast 2 n

/-- A power of two is a whole multiple of every smaller one. -/
theorem exists_pow2_eq_mul {e f : Int} (h : e ≤ f) : ∃ i : Int, pow2 f = i * pow2 e := by
  obtain ⟨n, hn⟩ := Int.eq_ofNat_of_zero_le (sub_nonneg.mpr h)
  refine ⟨(2 ^ n : Nat), ?_⟩
  have : f = n + e := by omega
  rw [this, pow2_add, pow2_natCast]
  norm_cast

/-! ### The binary exponent -/

theorem abs_eq_num_div_den (q : Rat) : q.abs = (q.num.natAbs : Rat) / q.den := by
  have hden : (0 : Rat) < q.den := by exact_mod_cast q.den_pos
  have habs : q.abs = |q| := by
    rcases le_total 0 q with h | h
    · rw [Rat.abs_of_nonneg h, abs_of_nonneg h]
    · rw [Rat.abs_of_nonpos h, abs_of_nonpos h]
  rw [habs, Nat.cast_natAbs, Int.cast_abs]
  conv_lhs => rw [← Rat.num_div_den q]
  rw [abs_div, abs_of_pos hden]

theorem abs_intCast (i : Int) : (i : Rat).abs = (i.natAbs : Rat) := by
  rw [abs_eq_num_div_den]
  simp

theorem pow2_log2_le {n : Nat} (h : n ≠ 0) : pow2 (Nat.log2 n) ≤ n := by
  rw [pow2_natCast]
  exact_mod_cast Nat.log2_self_le h

theorem lt_pow2_log2 (n : Nat) : (n : Rat) < pow2 (Nat.log2 n + 1) := by
  have : (n : Rat) < ((2 ^ (Nat.log2 n + 1) : Nat) : Rat) := by exact_mod_cast Nat.lt_log2_self
  rwa [← pow2_natCast] at this

theorem binaryExponent_spec {q : Rat} (hq : q ≠ 0) :
    pow2 (binaryExponent q) ≤ q.abs ∧ q.abs < pow2 (binaryExponent q + 1) := by
  have hnum : q.num.natAbs ≠ 0 := by simpa using hq
  have hden : (0 : Rat) < q.den := by exact_mod_cast q.den_pos
  have hnl := pow2_log2_le hnum
  have hnu := lt_pow2_log2 q.num.natAbs
  have hdl := pow2_log2_le q.den_nz
  have hdu := lt_pow2_log2 q.den
  have hquot := abs_eq_num_div_den q
  unfold binaryExponent
  generalize (Nat.log2 q.num.natAbs : Int) = a at *
  generalize (Nat.log2 q.den : Int) = b at *
  dsimp only
  split
  · next h =>
    refine ⟨h, ?_⟩
    rw [hquot, div_lt_iff₀ hden]
    calc (q.num.natAbs : Rat) < pow2 (a + 1) := hnu
      _ = pow2 (a - b + 1) * pow2 b := by rw [← pow2_add]; congr 1; ring
      _ ≤ pow2 (a - b + 1) * q.den := by gcongr; exact (pow2_pos _).le
  · next h =>
    refine ⟨?_, by rw [sub_add_cancel]; exact not_le.mp h⟩
    rw [hquot, le_div_iff₀ hden]
    calc pow2 (a - b - 1) * q.den ≤ pow2 (a - b - 1) * pow2 (b + 1) := by
          gcongr; exact (pow2_pos _).le
      _ = pow2 a := by rw [← pow2_add]; congr 1; ring
      _ ≤ q.num.natAbs := hnl

/-- The exponent is the only one with the value between its power of two and the next. -/
theorem binaryExponent_eq {q : Rat} {e : Int} (hlow : pow2 e ≤ q) (hhigh : q < pow2 (e + 1)) :
    binaryExponent q = e := by
  have hpos : 0 < q := (pow2_pos e).trans_le hlow
  have hspec := binaryExponent_spec hpos.ne'
  rw [Rat.abs_of_nonneg hpos.le] at hspec
  have h₁ : e < binaryExponent q + 1 := pow2_lt_pow2.mp (by linarith)
  have h₂ : binaryExponent q < e + 1 := pow2_lt_pow2.mp (by linarith)
  omega

/-- Of two magnitudes the larger one has no smaller exponent. -/
theorem binaryExponent_mono {a b : Rat} (ha : a ≠ 0) (h : a.abs ≤ b.abs) :
    binaryExponent a ≤ binaryExponent b := by
  have hb : b ≠ 0 := by
    rintro rfl
    have := Rat.abs_pos_iff.mpr ha
    rw [Rat.abs_zero] at h
    linarith
  have hlow := (binaryExponent_spec ha).1
  have hhigh := (binaryExponent_spec hb).2
  have hlt : pow2 (binaryExponent a) < pow2 (binaryExponent b + 1) := by linarith
  have := pow2_lt_pow2.mp hlt
  omega

/-! ### The grid of a rational -/

/-- The multiple of the last mantissa bit nearest to `q`, of whatever size. -/
def toGrid (q : Rat) : Rat := (roundHalfEven (q / pow2 (lastPlace q)) : Rat) * pow2 (lastPlace q)

theorem lastPlace_mono {a b : Rat} (ha : a ≠ 0) (h : a.abs ≤ b.abs) :
    lastPlace a ≤ lastPlace b := by
  have := binaryExponent_mono ha h
  simp only [lastPlace]
  omega

/-- A value on the grid of `q` that is not above `q` is not above the rounded `q`. -/
theorem le_toGrid {q : Rat} {i : Int} (h : i * pow2 (lastPlace q) ≤ q) :
    i * pow2 (lastPlace q) ≤ toGrid q := by
  have hpos := pow2_pos (lastPlace q)
  have : i ≤ roundHalfEven (q / pow2 (lastPlace q)) :=
    le_roundHalfEven ((le_div_iff₀ hpos).mpr h)
  unfold toGrid
  gcongr

/-- A value on the grid of `q` that is not below `q` is not below the rounded `q`. -/
theorem toGrid_le {q : Rat} {i : Int} (h : q ≤ i * pow2 (lastPlace q)) :
    toGrid q ≤ i * pow2 (lastPlace q) := by
  have hpos := pow2_pos (lastPlace q)
  have : roundHalfEven (q / pow2 (lastPlace q)) ≤ i :=
    roundHalfEven_le ((div_le_iff₀ hpos).mpr h)
  unfold toGrid
  gcongr

/-- A value on its own grid is kept. -/
theorem toGrid_eq_self {q : Rat} {i : Int} (h : q = i * pow2 (lastPlace q)) : toGrid q = q :=
  le_antisymm ((toGrid_le h.le).trans h.ge) (h.le.trans (le_toGrid h.ge))

theorem toGrid_zero : toGrid 0 = 0 :=
  toGrid_eq_self (i := 0) (by simp)

theorem lastPlace_neg (q : Rat) : lastPlace (-q) = lastPlace q := by
  simp [lastPlace, binaryExponent, Rat.abs_neg]

theorem toGrid_neg (q : Rat) : toGrid (-q) = -toGrid q := by
  unfold toGrid
  rw [lastPlace_neg, neg_div, roundHalfEven_neg]
  push_cast
  ring

theorem toGrid_nonneg {q : Rat} (h : 0 ≤ q) : 0 ≤ toGrid q := by
  simpa using le_toGrid (q := q) (i := 0) (by simpa using h)

/-- Between two magnitudes with different grids there is a power of two, which lies on both. -/
theorem exists_between_of_lastPlace_lt {a b : Rat} (ha : 0 < a) (hab : a ≤ b)
    (h : lastPlace a < lastPlace b) :
    ∃ e, (a ≤ pow2 e ∧ lastPlace a ≤ e) ∧ (pow2 e ≤ b ∧ lastPlace b ≤ e) := by
  have hb : 0 < b := by linarith
  have haSpec := (binaryExponent_spec ha.ne').2
  have hbSpec := (binaryExponent_spec hb.ne').1
  rw [Rat.abs_of_nonneg ha.le] at haSpec
  rw [Rat.abs_of_nonneg hb.le] at hbSpec
  simp only [lastPlace] at h ⊢
  have hexp : binaryExponent a + 1 ≤ binaryExponent b := by omega
  exact ⟨binaryExponent b, ⟨haSpec.le.trans (pow2_le_pow2.mpr hexp), by omega⟩, hbSpec, by omega⟩

theorem toGrid_mono_pos {a b : Rat} (ha : 0 < a) (hab : a ≤ b) : toGrid a ≤ toGrid b := by
  have hb : 0 < b := by linarith
  have habs : a.abs ≤ b.abs := by
    rwa [Rat.abs_of_nonneg ha.le, Rat.abs_of_nonneg hb.le]
  rcases lt_or_eq_of_le (lastPlace_mono ha.ne' habs) with hlt | heq
  · obtain ⟨e, ⟨hae, hpa⟩, hbe, hpb⟩ := exists_between_of_lastPlace_lt ha hab hlt
    obtain ⟨i, hi⟩ := exists_pow2_eq_mul hpa
    obtain ⟨j, hj⟩ := exists_pow2_eq_mul hpb
    calc toGrid a ≤ pow2 e := hi ▸ toGrid_le (hi ▸ hae)
      _ ≤ toGrid b := hj ▸ le_toGrid (hj ▸ hbe)
  · have hpos := pow2_pos (lastPlace b)
    unfold toGrid
    rw [heq]
    have : roundHalfEven (a / pow2 (lastPlace b)) ≤ roundHalfEven (b / pow2 (lastPlace b)) :=
      roundHalfEven_mono (by gcongr)
    gcongr

theorem toGrid_mono {a b : Rat} (h : a ≤ b) : toGrid a ≤ toGrid b := by
  rcases lt_or_ge 0 a with ha | ha
  · exact toGrid_mono_pos ha h
  · rcases le_or_gt 0 b with hb | hb
    · have hneg := toGrid_nonneg (q := -a) (by linarith)
      rw [toGrid_neg] at hneg
      have := toGrid_nonneg hb
      linarith
    · have hneg := toGrid_mono_pos (a := -b) (b := -a) (by linarith) (by linarith)
      rw [toGrid_neg, toGrid_neg] at hneg
      linarith

/-! ### Whole values -/

/-- A whole value is kept if its last mantissa bit stands for one unit or less. -/
theorem toGrid_intCast_of_le {i : Int} (h : lastPlace (i : Rat) ≤ 0) : toGrid (i : Rat) = i := by
  obtain ⟨k, hk⟩ := exists_pow2_eq_mul h
  refine toGrid_eq_self (i := i * k) ?_
  push_cast
  rw [mul_assoc, ← hk, pow2_zero, mul_one]

/-- A value whose last mantissa bit stands for a whole number of units is rounded to a whole
value. -/
theorem exists_toGrid_of_nonneg {q : Rat} (h : 0 ≤ lastPlace q) : ∃ j : Int, toGrid q = j := by
  obtain ⟨k, hk⟩ := exists_pow2_eq_mul h
  rw [pow2_zero, mul_one] at hk
  refine ⟨roundHalfEven (q / pow2 (lastPlace q)) * k, ?_⟩
  rw [toGrid, Int.cast_mul, ← hk]

/-- A whole value is rounded to a whole value. -/
theorem exists_toGrid_intCast (i : Int) : ∃ j : Int, toGrid (i : Rat) = j := by
  rcases le_total 0 (lastPlace (i : Rat)) with h | h
  · exact exists_toGrid_of_nonneg h
  · exact ⟨i, toGrid_intCast_of_le h⟩

theorem wholeLimit_eq_pow2 : (wholeLimit : Rat) = pow2 53 :=
  (pow2_natCast 53).symm

/-- Whole values up to `2 ^ 53` lie on their own grid. -/
theorem toGrid_intCast {i : Int} (h : i.natAbs ≤ wholeLimit) : toGrid (i : Rat) = i := by
  by_cases hzero : i = 0
  · subst hzero
    exact_mod_cast toGrid_zero
  have hq : (i : Rat) ≠ 0 := by exact_mod_cast hzero
  have hspec := binaryExponent_spec hq
  rw [abs_intCast] at hspec
  have hle : (i.natAbs : Rat) ≤ pow2 53 := by
    rw [← wholeLimit_eq_pow2]
    exact_mod_cast h
  have hexp : binaryExponent (i : Rat) ≤ 53 := pow2_le_pow2.mp (hspec.1.trans hle)
  rcases lt_or_eq_of_le hexp with hlt | heq
  · -- the last mantissa bit stands for one unit or less
    have hplace : lastPlace (i : Rat) ≤ 0 := by simp only [lastPlace]; omega
    exact toGrid_intCast_of_le hplace
  · -- only the limit itself has a last bit of two units
    have hplace : lastPlace (i : Rat) = 1 := by simp only [lastPlace]; omega
    have hge : pow2 53 ≤ (i.natAbs : Rat) := heq ▸ hspec.1
    have hnat : i.natAbs = wholeLimit := by
      have : (wholeLimit : Rat) ≤ i.natAbs := by rwa [wholeLimit_eq_pow2]
      exact le_antisymm h (by exact_mod_cast this)
    obtain ⟨k, hk⟩ : ∃ k : Int, i = k * 2 := ⟨i / 2, by simp only [wholeLimit] at hnat; omega⟩
    refine toGrid_eq_self (i := k) ?_
    rw [hplace]
    have htwo : pow2 1 = 2 := by norm_num [pow2]
    rw [htwo, hk]
    push_cast
    ring

/-! ### Rounding -/

/-- The finite value, or the infinity of its side if the magnitude is out of range. -/
def saturate (r : Rat) : Number :=
  if pow2 1024 ≤ r then .posInf else if r ≤ -pow2 1024 then .negInf else .finite r

theorem saturate_of_lt {r : Rat} (h : -pow2 1024 < r) (h' : r < pow2 1024) :
    saturate r = .finite r := by
  rw [saturate, if_neg (not_le.mpr h'), if_neg (not_le.mpr h)]

theorem saturate_mono {a b : Rat} (h : a ≤ b) : saturate a ≤ saturate b := by
  have hpos := pow2_pos 1024
  unfold saturate
  split_ifs with ha hb hb' ha' hb hb' hb hb'
  · rfl
  · linarith
  · linarith
  · rfl
  · rfl
  · rfl
  · rfl
  · linarith
  · exact finite_le_finite.mpr h

theorem round_eq_saturate (q : Rat) : round q = saturate (toGrid q) := by
  unfold round
  split
  · next h =>
    obtain ⟨hden, hnum⟩ := h
    have hq : q = (q.num : Rat) := (Rat.den_eq_one_iff q).mp hden |>.symm
    have hkept : toGrid q = q := by
      rw [hq]
      exact toGrid_intCast hnum
    have hbound : |(q.num : Rat)| < pow2 1024 := by
      have hnum' : |(q.num : Rat)| ≤ (wholeLimit : Rat) := by
        rw [← Int.cast_abs, Int.abs_eq_natAbs]
        exact_mod_cast hnum
      have : pow2 53 < pow2 1024 := pow2_lt_pow2.mpr (by norm_num)
      rw [wholeLimit_eq_pow2] at hnum'
      linarith
    rw [← hq] at hbound
    obtain ⟨hlow, hhigh⟩ := abs_lt.mp hbound
    rw [hkept, saturate_of_lt hlow hhigh]
  · rfl

theorem round_le_posInf (q : Rat) : round q ≤ .posInf := by
  rw [round_eq_saturate]
  unfold saturate
  split_ifs
  · rfl
  · rfl
  · rfl

/-- Rounding keeps order. -/
theorem round_mono {a b : Rat} (h : a ≤ b) : round a ≤ round b := by
  rw [round_eq_saturate, round_eq_saturate]
  exact saturate_mono (toGrid_mono h)

/-! ### Values that are not below zero -/

theorem not_lt_of_le {x y : Number} (h : y ≤ x) : ¬ x < y := by
  cases x <;> cases y <;>
    first
    | exact fun hlt => not_lt.mpr (finite_le_finite.mp h) (finite_lt_finite.mp hlt)
    | exact Bool.false_ne_true
    | exact absurd (show false = true from h) Bool.false_ne_true

theorem not_neg_finite {q : Rat} : ¬ Number.finite q < 0 ↔ 0 ≤ q := by
  show ¬ Number.finite q < .finite ((0 : Nat) : Rat) ↔ 0 ≤ q
  rw [finite_lt_finite, not_lt, Nat.cast_zero]

theorem not_neg_round {q : Rat} (h : 0 ≤ q) : ¬ round q < 0 := not_lt_of_le (round_mono h)

theorem not_neg_add {x y : Number} (hx : ¬ x < 0) (hy : ¬ y < 0) : ¬ x + y < 0 := by
  cases x with
  | nan => exact not_nan_lt 0
  | negInf => exact absurd rfl hx
  | posInf =>
    cases y with
    | nan => exact not_nan_lt 0
    | negInf => exact absurd rfl hy
    | posInf | finite b => exact Bool.false_ne_true
  | finite a =>
    cases y with
    | nan => exact not_nan_lt 0
    | negInf => exact absurd rfl hy
    | posInf => exact Bool.false_ne_true
    | finite b => exact not_neg_round (add_nonneg (not_neg_finite.mp hx) (not_neg_finite.mp hy))

/-! ### Signs -/

theorem saturate_neg (r : Rat) : saturate (-r) = -saturate r := by
  have hpos := pow2_pos 1024
  unfold saturate
  split_ifs <;> first | rfl | (exfalso; linarith)

/-- Rounding does not prefer a side of zero. -/
theorem round_neg (q : Rat) : round (-q) = -round q := by
  rw [round_eq_saturate, round_eq_saturate, toGrid_neg, saturate_neg]

theorem abs_neg (x : Number) : (-x).abs = x.abs := by
  cases x with
  | finite q => exact congrArg Number.finite Rat.abs_neg
  | nan | posInf | negInf => rfl

/-- The magnitude of a rounded value is its rounded magnitude. -/
theorem abs_round (q : Rat) : (round q).abs = round q.abs := by
  have hnonneg : ∀ r : Rat, 0 ≤ r → (round r).abs = round r := by
    intro r hr
    have hgrid := toGrid_nonneg hr
    have hpos := pow2_pos 1024
    rw [round_eq_saturate, saturate]
    split_ifs with hhigh hlow
    · rfl
    · linarith
    · exact congrArg Number.finite (Rat.abs_of_nonneg hgrid)
  rcases le_total 0 q with h | h
  · rw [Rat.abs_of_nonneg h, hnonneg q h]
  · rw [Rat.abs_of_nonpos h, ← abs_neg, ← round_neg, hnonneg (-q) (by linarith)]

/-- A whole value is rounded to a whole value or to an infinity. -/
theorem round_intCast_cases (i : Int) :
    (∃ j : Int, round (i : Rat) = (j : Number)) ∨ round (i : Rat) = .posInf ∨
      round (i : Rat) = .negInf := by
  obtain ⟨j, hj⟩ := exists_toGrid_intCast i
  rw [round_eq_saturate, hj]
  unfold saturate
  split_ifs
  · exact .inr (.inl rfl)
  · exact .inr (.inr rfl)
  · exact .inl ⟨j, rfl⟩

/-! ### Values of binary64 -/

/-- The values that binary64 has: those that rounding leaves alone. -/
def Representable : Number → Prop
  | .finite q => round q = .finite q
  | _ => True

theorem representable_natCast {n : Nat} (h : n ≤ wholeLimit) : (n : Number).Representable :=
  round_natCast h

/-- A sum that is a value of binary64 is not rounded. -/
theorem add_natCast_of_representable {m n : Nat} (h : ((m + n : Nat) : Number).Representable) :
    (m : Number) + (n : Number) = ((m + n : Nat) : Number) := by
  have hround : round ((m + n : Nat) : Rat) = ((m + n : Nat) : Number) := h
  rw [← hround, Nat.cast_add]
  rfl

theorem sub_natCast_of_representable {m n : Nat} (hle : n ≤ m)
    (h : ((m - n : Nat) : Number).Representable) :
    (m : Number) - (n : Number) = ((m - n : Nat) : Number) := by
  have hround : round ((m - n : Nat) : Rat) = ((m - n : Nat) : Number) := h
  rw [← hround, Nat.cast_sub hle]
  exact finite_sub_finite _ _

/-- The largest finite value. -/
def largest : Rat := (0x20000000000000 - 1) * pow2 971

theorem pow2_le_largest : pow2 1023 ≤ largest := by
  have h : pow2 52 ≤ 0x20000000000000 - 1 := by norm_num [pow2_eq_zpow]
  rw [largest, show (1023 : Int) = 52 + 971 by norm_num, pow2_add]
  exact mul_le_mul_of_nonneg_right h (pow2_pos _).le

/-- No multiple of the last bit of `largest` lies between it and the next power of two. -/
theorem not_between_largest (i : Int) :
    ¬ (largest < i * pow2 971 ∧ i * pow2 971 < pow2 1024) := by
  rintro ⟨hlow, hhigh⟩
  have hpow := pow2_pos 971
  have h₁ : (0x20000000000000 - 1 : Rat) < i := lt_of_mul_lt_mul_right hlow hpow.le
  have h₂ : (i : Rat) < 0x20000000000000 := by
    rw [show (1024 : Int) = 53 + 971 by norm_num, pow2_add] at hhigh
    have := lt_of_mul_lt_mul_right hhigh hpow.le
    norm_num [pow2_eq_zpow] at this
    exact this
  have h₃ : (0x20000000000000 - 1 : Int) < i := by exact_mod_cast h₁
  have h₄ : i < (0x20000000000000 : Int) := by exact_mod_cast h₂
  omega

/-- A finite result of rounding is the value on the grid, and in range. -/
theorem toGrid_eq_of_round {q r : Rat} (hq : round q = .finite r) :
    toGrid q = r ∧ r < pow2 1024 := by
  rw [round_eq_saturate] at hq
  unfold saturate at hq
  split_ifs at hq with h₁ h₂
  have hgrid : toGrid q = r := Number.finite.inj hq
  exact ⟨hgrid, hgrid ▸ not_le.mp h₁⟩

theorem le_largest {q : Rat} (hq : round q = .finite q) : q ≤ largest := by
  by_contra hnot
  have hlt : largest < q := not_le.mp hnot
  have hlow : pow2 1023 ≤ q := pow2_le_largest.trans hlt.le
  obtain ⟨hgrid, hhigh⟩ := toGrid_eq_of_round hq
  -- so the last bit of `q` stands for `2 ^ 971`, as that of `largest` does
  have hexp : binaryExponent q = 1023 := binaryExponent_eq hlow hhigh
  have hplace : lastPlace q = 971 := by simp [lastPlace, hexp]
  unfold toGrid at hgrid
  rw [hplace] at hgrid
  apply not_between_largest (roundHalfEven (q / pow2 971))
  rw [hgrid]
  exact ⟨hlt, hhigh⟩

theorem round_largest_add_one : round (largest + 1) = .finite largest := by
  decide +kernel

/-- A whole value between zero and one more than a finite value is rounded to a count. -/
theorem round_intCast_of_le {i : Int} {q : Rat} (hi : 0 ≤ i) (hiq : (i : Rat) ≤ q + 1)
    (hq : round q = .finite q) : ∃ n : Nat, round (i : Rat) = (n : Number) := by
  have hlow : (0 : Number) ≤ round (i : Rat) := by
    have := round_mono (a := 0) (b := (i : Rat)) (by exact_mod_cast hi)
    exact this
  have hhigh : round (i : Rat) ≤ .finite largest := by
    rw [← round_largest_add_one]
    exact round_mono (by linarith [le_largest hq])
  rcases round_intCast_cases i with ⟨j, hj⟩ | h | h
  · rw [hj] at hlow ⊢
    have : 0 ≤ j := intCast_le_intCast.mp hlow
    exact ⟨j.toNat, by rw [← intCast_natCast, Int.toNat_of_nonneg this]⟩
  · rw [h] at hhigh
    cases hhigh
  · rw [h] at hlow
    cases hlow

/-! ### Fractions -/

/-- Where rounding ends at a fraction, mantissa bits stand for less than the unit. -/
theorem lastPlace_neg_of_not_whole {q r : Rat} (hq : round q = .finite r)
    (hfrac : ∀ i : Int, r ≠ i) : lastPlace q < 0 := by
  by_contra hplace
  obtain ⟨j, hj⟩ := exists_toGrid_of_nonneg (not_lt.mp hplace)
  exact hfrac j ((toGrid_eq_of_round hq).1.symm.trans hj)

/-- Rounding does not end at a fraction above the limit of the whole values. -/
theorem le_wholeLimit_of_not_whole {q r : Rat} (hq : round q = .finite r)
    (hfrac : ∀ i : Int, r ≠ i) : r ≤ wholeLimit := by
  by_contra hnot
  have hlimit : (wholeLimit : Rat) < q := by
    by_contra hle
    have hround := round_mono (not_lt.mp hle)
    rw [hq, round_natCast (Nat.le_refl _)] at hround
    exact hnot (finite_le_finite.mp hround)
  -- from the limit on, the last bit stands for at least one unit
  have hmono : lastPlace (wholeLimit : Rat) ≤ lastPlace q := by
    have hpos : (0 : Rat) < wholeLimit := by norm_num [wholeLimit]
    refine lastPlace_mono hpos.ne' ?_
    rw [Rat.abs_of_nonneg hpos.le, Rat.abs_of_nonneg (hpos.trans hlimit).le]
    exact hlimit.le
  have hplace : 0 ≤ lastPlace (wholeLimit : Rat) := by decide +kernel
  have := lastPlace_neg_of_not_whole hq hfrac
  omega

/-- **A count that does not exceed a fraction is taken from it exactly**: no bit of the difference
stands for less than the last bit of the fraction, and it has no more bits. -/
theorem round_sub_natCast {q : Rat} {k : Nat} (hq : round q = .finite q)
    (hfrac : ∀ i : Int, q ≠ i) (hk : (k : Rat) ≤ q) : round (q - k) = .finite (q - k) := by
  obtain ⟨hgrid, hrange⟩ := toGrid_eq_of_round hq
  have hk0 : (0 : Rat) ≤ k := Nat.cast_nonneg k
  have hne : q - k ≠ 0 := fun h => hfrac k (by rw [Int.cast_natCast]; linarith)
  have hplace : lastPlace (q - k) ≤ lastPlace q := by
    refine lastPlace_mono hne ?_
    rw [Rat.abs_of_nonneg (by linarith), Rat.abs_of_nonneg (by linarith)]
    linarith
  -- both are multiples of the last bit of the fraction, and that of the last bit of the difference
  obtain ⟨u, hu⟩ := exists_pow2_eq_mul (lastPlace_neg_of_not_whole hq hfrac).le
  obtain ⟨m, hm⟩ := exists_pow2_eq_mul hplace
  have hself : q - k = ((roundHalfEven (q / pow2 (lastPlace q)) - k * u) * m : Int) *
      pow2 (lastPlace (q - k)) := by
    have hq' : q = roundHalfEven (q / pow2 (lastPlace q)) * pow2 (lastPlace q) := hgrid.symm
    have hk' : (k : Rat) = k * (u * pow2 (lastPlace q)) := by rw [← hu, pow2_zero, mul_one]
    push_cast
    rw [mul_assoc, ← hm]
    linarith
  rw [round_eq_saturate, toGrid_eq_self hself]
  have hlow : 0 ≤ q - k := sub_nonneg.mpr hk
  exact saturate_of_lt ((neg_neg_of_pos (pow2_pos 1024)).trans_le hlow)
    ((sub_le_self q hk0).trans_lt hrange)

end Number

end EditorGutter
