/-!
Numbers of the editor: the values of a binary64 float, with the sign of a zero dropped.

Lines, offsets, widths, color channels and modifier masks all arrive from a host as such
values, so a fraction, a NaN or an infinity has to be carried as faithfully as a count.  A finite
value is kept as the exact rational that it stands for.  `Number.round` is the one place where
precision is lost: every operation computes its exact result and rounds it to nearest, ties to
the even mantissa.  Whole values up to `2 ^ 53` are left alone by it (`round_intCast`), so line
and column arithmetic is integer arithmetic (`add_intCast`, `sub_intCast`).
-/
namespace EditorGutter

/-- A binary64 value without the sign of zero. -/
inductive Number where
  | nan
  | posInf
  | negInf
  | finite (q : Rat)
  deriving DecidableEq, Repr

namespace Number

instance : Inhabited Number := ⟨.finite 0⟩

instance : NatCast Number := ⟨fun n => .finite n⟩

instance : IntCast Number := ⟨fun i => .finite i⟩

instance (n : Nat) : OfNat Number n := ⟨((n : Nat) : Number)⟩

/-! ### Rounding -/

/-- The power of two with exponent `e`, exactly. -/
def pow2 (e : Int) : Rat :=
  if 0 ≤ e then (Nat.pow 2 e.toNat : Rat) else 1 / (Nat.pow 2 (-e).toNat : Rat)

/-- The nearest integer, and of two equally near ones the even one. -/
def roundHalfEven (q : Rat) : Int :=
  let low := q.floor
  let rest := q - low
  if rest < 1 / 2 then low
  else if 1 / 2 < rest then low + 1
  else if low % 2 = 0 then low
  else low + 1

/-- The largest `e` with `2 ^ e ≤ |q|`, for a `q` other than zero. -/
def binaryExponent (q : Rat) : Int :=
  let guess : Int := (Nat.log2 q.num.natAbs : Int) - (Nat.log2 q.den : Int)
  if pow2 guess ≤ q.abs then guess else guess - 1

/-- The exponent of the last mantissa bit of a value near `q`: 53 bits are kept, and none below
`2 ^ -1074`. -/
def lastPlace (q : Rat) : Int :=
  max (binaryExponent q - 52) (-1074)

/-- The largest magnitude up to which every whole value is a binary64 value: `2 ^ 53`. -/
def wholeLimit : Nat := 0x20000000000000

/-- The binary64 value nearest to `q`, ties to the even mantissa; magnitudes from `2 ^ 1024` on
are infinite. -/
def round (q : Rat) : Number :=
  if q.den = 1 ∧ q.num.natAbs ≤ wholeLimit then .finite q
  else
    let place := lastPlace q
    let rounded := (roundHalfEven (q / pow2 place) : Rat) * pow2 place
    if pow2 1024 ≤ rounded then .posInf
    else if rounded ≤ -pow2 1024 then .negInf
    else .finite rounded

theorem round_intCast {i : Int} (h : i.natAbs ≤ wholeLimit) : round (i : Rat) = (i : Number) := by
  simp only [round, Rat.den_intCast, Rat.num_intCast, true_and, h, ↓reduceIte]
  rfl

theorem intCast_natCast (n : Nat) : ((n : Int) : Number) = (n : Number) := by
  show Number.finite ((n : Int) : Rat) = Number.finite (n : Rat)
  rw [Rat.intCast_natCast]

theorem round_natCast {n : Nat} (h : n ≤ wholeLimit) : round (n : Rat) = (n : Number) := by
  rw [← Rat.intCast_natCast, round_intCast (by simpa using h), intCast_natCast]

/-! ### Arithmetic -/

/-- The negated value. -/
protected def neg : Number → Number
  | .nan => .nan
  | .posInf => .negInf
  | .negInf => .posInf
  | .finite q => .finite (-q)

/-- The rounded sum; opposite infinities have none. -/
protected def add : Number → Number → Number
  | .nan, _ => .nan
  | _, .nan => .nan
  | .posInf, .negInf => .nan
  | .negInf, .posInf => .nan
  | .posInf, _ => .posInf
  | _, .posInf => .posInf
  | .negInf, _ => .negInf
  | _, .negInf => .negInf
  | .finite a, .finite b => round (a + b)

/-- The infinity with the sign of `q`, or NaN for zero. -/
def signedInf (q : Rat) : Number :=
  if 0 < q then .posInf else if q < 0 then .negInf else .nan

/-- The rounded product; zero times an infinity has none. -/
protected def mul : Number → Number → Number
  | .nan, _ => .nan
  | _, .nan => .nan
  | .posInf, .posInf => .posInf
  | .posInf, .negInf => .negInf
  | .negInf, .posInf => .negInf
  | .negInf, .negInf => .posInf
  | .posInf, .finite q => signedInf q
  | .negInf, .finite q => signedInf (-q)
  | .finite q, .posInf => signedInf q
  | .finite q, .negInf => signedInf (-q)
  | .finite a, .finite b => round (a * b)

/-- The rounded quotient; a zero divisor counts as a positive one that is arbitrarily small. -/
protected def div : Number → Number → Number
  | .nan, _ => .nan
  | _, .nan => .nan
  | .posInf, .finite q => if q < 0 then .negInf else .posInf
  | .negInf, .finite q => if q < 0 then .posInf else .negInf
  | .finite _, .posInf => 0
  | .finite _, .negInf => 0
  | .finite a, .finite b => if b = 0 then signedInf a else round (a / b)
  | _, _ => .nan

instance : Neg Number := ⟨Number.neg⟩

instance : Add Number := ⟨Number.add⟩

instance : Sub Number := ⟨fun a b => a + -b⟩

instance : Mul Number := ⟨Number.mul⟩

instance : Div Number := ⟨Number.div⟩

/-- The magnitude. -/
def abs : Number → Number
  | .nan => .nan
  | .posInf => .posInf
  | .negInf => .posInf
  | .finite q => .finite q.abs

/-- The integer nearest to `q` on the side of zero. -/
def truncRat (q : Rat) : Int :=
  if 0 ≤ q then q.floor else q.ceil

/-- The largest whole value that is not above this one. -/
def floor : Number → Number
  | .finite q => .finite q.floor
  | x => x

/-- The nearest whole value, a half going up. -/
def nearestWhole : Number → Number
  | .finite q => .finite (q + 1 / 2).floor
  | x => x

/-- The remainder of a division rounded toward zero, which has the sign of the dividend. -/
def remainder : Number → Number → Number
  | .finite a, .finite b => if b = 0 then .nan else .finite (a - b * truncRat (a / b))
  | .finite a, .posInf => .finite a
  | .finite a, .negInf => .finite a
  | _, _ => .nan

theorem finite_add_finite (a b : Rat) : (.finite a + .finite b : Number) = round (a + b) := rfl

theorem finite_sub_finite (a b : Rat) : (.finite a - .finite b : Number) = round (a - b) := by
  rw [Rat.sub_eq_add_neg]; rfl

theorem add_intCast {i j : Int} (h : (i + j).natAbs ≤ wholeLimit) :
    ((i : Number) + (j : Number)) = ((i + j : Int) : Number) := by
  have : ((i : Number) + (j : Number)) = round ((i : Rat) + (j : Rat)) := rfl
  rw [this, ← Rat.intCast_add, round_intCast h]

theorem add_natCast {m n : Nat} (h : m + n ≤ wholeLimit) :
    ((m : Number) + (n : Number)) = ((m + n : Nat) : Number) := by
  rw [← intCast_natCast, ← intCast_natCast, ← intCast_natCast, add_intCast (by omega)]
  rfl

theorem sub_intCast {i j : Int} (h : (i - j).natAbs ≤ wholeLimit) :
    ((i : Number) - (j : Number)) = ((i - j : Int) : Number) := by
  have : ((i : Number) - (j : Number)) = round ((i : Rat) - (j : Rat)) := finite_sub_finite _ _
  rw [this, ← Rat.intCast_sub, round_intCast h]

/-- Below the limit, adding one can be undone. -/
theorem add_one_sub_one {n : Nat} (h : n < wholeLimit) : (n : Number) + 1 - 1 = (n : Number) := by
  have hadd : (n : Number) + 1 = ((n + 1 : Nat) : Number) := add_natCast h
  have hone : (1 : Number) = ((1 : Int) : Number) := (intCast_natCast 1).symm
  rw [hadd, hone, ← intCast_natCast, ← intCast_natCast, sub_intCast (by omega)]
  congr 1
  omega

end Number

end EditorGutter
