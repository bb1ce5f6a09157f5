import EditorGutter.Number.Order

/-!
Numbers as counts and positions.

Which numbers are whole, which are counts, how a place in a document is moved, and which position in
a sequence a number names when it need not be one.
-/
namespace EditorGutter

namespace Number

/-- The integer that a whole value is. -/
def toInt? : Number → Option Int
  | .finite q => if q.den = 1 then some q.num else none
  | _ => none

/-- The natural number that a whole value from zero on is. -/
def toNat? (x : Number) : Option Nat :=
  match x.toInt? with
  | some (.ofNat n) => some n
  | _ => none

/-- A positive count, which widths and heights have to be. -/
def toPositive? (x : Number) : Option { n : Nat // 0 < n } :=
  match x.toNat? with
  | some n => if h : 0 < n then some ⟨n, h⟩ else none
  | none => none

/-- The value moved by a count of lines, units or cells: their rounded sum.  Only the places from
zero to `high`, which a document or a column has, are moved exactly; as long as binary64 can count
them, this is the rounded sum as well (`moveBy_eq_add`). -/
def moveBy (x high : Number) (n : Int) : Number :=
  match x.toNat? with
  | some i => if x ≤ high then ((i + n : Int) : Number) else x + (n : Number)
  | none => x + (n : Number)

/-- The position in a sequence of `length` units that a value names: the whole part, held inside
the sequence, with NaN naming the start. -/
def toPosition (length : Nat) (x : Number) : Nat :=
  if (length : Number) ≤ x then length
  else match x with
    | .finite q => q.floor.toNat
    | _ => 0

/-- The count that a value asks for: its whole part, none if that is negative or NaN, and never
more than `2 ^ 53 - 1`. -/
def toCount (x : Number) : Nat :=
  x.toPosition (wholeLimit - 1)

@[simp] theorem toInt?_intCast (i : Int) : ((i : Number)).toInt? = some i := by
  show (if ((i : Rat)).den = 1 then some ((i : Rat)).num else none) = _
  simp

@[simp] theorem toInt?_natCast (n : Nat) : ((n : Number)).toInt? = some (n : Int) := by
  show (if ((n : Rat)).den = 1 then some ((n : Rat)).num else none) = _
  simp

@[simp] theorem toNat?_natCast (n : Nat) : ((n : Number)).toNat? = some n := by
  simp [toNat?]

theorem toInt?_eq_some_iff {x : Number} {i : Int} : x.toInt? = some i ↔ x = (i : Number) := by
  constructor
  · intro h
    cases x with
    | finite q =>
      simp only [toInt?, Option.ite_none_right_eq_some, Option.some.injEq] at h
      obtain ⟨hden, rfl⟩ := h
      exact congrArg Number.finite (Rat.ext (by simp) (by simpa using hden))
    | nan | posInf | negInf => simp [toInt?] at h
  · rintro rfl
    exact toInt?_intCast i

theorem toNat?_eq_some_iff {x : Number} {n : Nat} : x.toNat? = some n ↔ x = (n : Number) := by
  constructor
  · intro h
    unfold toNat? at h
    split at h
    · next m hm =>
      obtain rfl := Option.some.inj h
      exact (toInt?_eq_some_iff.mp hm).trans (intCast_natCast m)
    · cases h
  · rintro rfl
    exact toNat?_natCast n

theorem eq_of_toPositive? {x : Number} {n : { n : Nat // 0 < n }} (h : x.toPositive? = some n) :
    x = (n.val : Number) := by
  unfold toPositive? at h
  split at h
  · next m hm =>
    split at h
    · obtain rfl := Option.some.inj h
      exact toNat?_eq_some_iff.mp hm
    · cases h
  · cases h

theorem toPositive?_natCast {n : Nat} (h : 0 < n) : (n : Number).toPositive? = some ⟨n, h⟩ := by
  rw [toPositive?, toNat?_natCast]
  exact dif_pos h

/-! ### Moves -/

theorem moveBy_of_le {m : Nat} {high : Number} (h : (m : Number) ≤ high) (n : Int) :
    (m : Number).moveBy high n = ((m + n : Int) : Number) := by
  rw [moveBy, toNat?_natCast]
  exact if_pos h

theorem moveBy_natCast {m : Nat} {high : Number} (h : (m : Number) ≤ high) (n : Nat) :
    (m : Number).moveBy high n = ((m + n : Nat) : Number) := by
  rw [moveBy_of_le h, ← intCast_natCast]
  rfl

/-- The line after a line. -/
theorem moveBy_one {n : Nat} {high : Number} (h : (n : Number) ≤ high) :
    (n : Number).moveBy high 1 = ((n + 1 : Nat) : Number) :=
  moveBy_natCast h 1

/-- So many cells before a cell. -/
theorem moveBy_neg {m n : Nat} {high : Number} (hle : n ≤ m) (h : (m : Number) ≤ high) :
    (m : Number).moveBy high (-n) = ((m - n : Nat) : Number) := by
  rw [moveBy_of_le h, ← intCast_natCast]
  congr 1
  omega

/-- The unit before a unit. -/
theorem moveBy_neg_one {n : Nat} {high : Number} (hpos : 0 < n) (h : (n : Number) ≤ high) :
    (n : Number).moveBy high (-1) = ((n - 1 : Nat) : Number) :=
  moveBy_neg hpos h

/-- A value is one of the places and moved exactly, or moved by rounded addition. -/
theorem moveBy_cases (x high : Number) (n : Int) :
    (∃ i : Nat, x = (i : Number) ∧ x ≤ high ∧ x.moveBy high n = ((i + n : Int) : Number)) ∨
      (∀ i : Nat, x = (i : Number) → ¬ x ≤ high) ∧ x.moveBy high n = x + (n : Number) := by
  unfold moveBy
  split
  · next i hi =>
    split
    · next hle => exact .inl ⟨i, toNat?_eq_some_iff.mp hi, hle, rfl⟩
    · next hnot => exact .inr ⟨fun _ _ => hnot, rfl⟩
  · next hnone =>
    refine .inr ⟨?_, rfl⟩
    rintro i rfl
    rw [toNat?_natCast] at hnone
    cases hnone

/-- **Moving is rounded addition** where no place is moved out of the whole values of binary64. -/
theorem moveBy_eq_add {high : Nat} {n : Int} (hlow : -wholeLimit ≤ n)
    (hhigh : high + n ≤ wholeLimit) (x : Number) :
    x.moveBy (high : Number) n = x + (n : Number) := by
  rcases moveBy_cases x high n with ⟨i, rfl, hle, hmove⟩ | ⟨-, hmove⟩
  · have hi : i ≤ high := natCast_le_natCast.mp hle
    rw [hmove, ← intCast_natCast, add_intCast (by omega)]
  · exact hmove

/-! ### Positions -/

theorem toNat_floor_natCast (n : Nat) : (n : Rat).floor.toNat = n := by
  rw [← Rat.intCast_natCast, Rat.floor_intCast, Int.toNat_natCast]

theorem toPosition_natCast (length n : Nat) : (n : Number).toPosition length = min length n := by
  show (if (length : Number) ≤ (n : Number) then length else (n : Rat).floor.toNat) = min length n
  rw [toNat_floor_natCast]
  split
  · next h => exact (Nat.min_eq_left (natCast_le_natCast.1 h)).symm
  · next h => exact (Nat.min_eq_right (Nat.le_of_not_le fun h' => h (natCast_le_natCast.2 h'))).symm

end Number

end EditorGutter
