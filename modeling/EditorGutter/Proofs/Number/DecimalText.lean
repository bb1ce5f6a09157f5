import EditorGutter.Number.Decimal

/-!
The characters in the text of a number.

Whatever the number, its text has digits, a point, a sign, the exponent mark, or the letters of the
values that are not finite (`numeral_toChars`).  So it is printable ASCII (`printable_toChars`), and
neither a blank nor a tilde occurs in it.
-/
namespace EditorGutter

namespace Number

/-- A printable ASCII character. -/
def Printable (c : Char) : Prop := 0x20 ≤ c.toNat ∧ c.toNat ≤ 0x7E

instance (c : Char) : Decidable (Printable c) := inferInstanceAs (Decidable (_ ∧ _))

/-- A character from the plus sign to the letter y, between which those of a number lie. -/
def Numeral (c : Char) : Prop := 0x2B ≤ c.toNat ∧ c.toNat ≤ 0x79

instance (c : Char) : Decidable (Numeral c) := inferInstanceAs (Decidable (_ ∧ _))

theorem Numeral.printable {c : Char} (h : Numeral c) : Printable c :=
  ⟨Nat.le_trans (by decide) h.1, Nat.le_trans h.2 (by decide)⟩

theorem numeral_of_all {cs : List Char} (h : cs.all (fun c => decide (Numeral c)) = true) :
    ∀ c ∈ cs, Numeral c :=
  fun c hc => of_decide_eq_true (List.all_eq_true.mp h c hc)

/-! ### Digits -/

theorem numeral_of_isDigit {c : Char} (h : c.isDigit = true) : Numeral c := by
  obtain ⟨hlow, hhigh⟩ : 48 ≤ c.val ∧ c.val ≤ 57 := by simpa [Char.isDigit] using h
  have hlow' : 48 ≤ c.toNat := UInt32.le_iff_toNat_le.mp hlow
  have hhigh' : c.toNat ≤ 57 := UInt32.le_iff_toNat_le.mp hhigh
  exact ⟨by omega, by omega⟩

theorem numeral_digits (n : Nat) : ∀ c ∈ digits n, Numeral c :=
  fun _ h => numeral_of_isDigit (Nat.isDigit_of_mem_toDigits (by decide) (by decide) h)

theorem numeral_zeros (n : Nat) : ∀ c ∈ List.replicate n '0', Numeral c := by
  intro c h
  rw [List.eq_of_mem_replicate h]
  decide

theorem numeral_ofMantissa (m : Nat) (e : Int) :
    ∀ c ∈ (Decimal.ofMantissa m e).digits, Numeral c := by
  intro c h
  have hmem : c ∈ (digits m).reverse := (List.dropWhile_sublist _).subset (List.mem_reverse.mp h)
  exact numeral_digits m c (List.mem_reverse.mp hmem)

/-- Every decimal that is tried comes from a mantissa. -/
theorem exists_shortestFrom (q : Rat) (point : Int) (fuel count : Nat) :
    ∃ m e, shortestFrom q point fuel count = Decimal.ofMantissa m e := by
  induction fuel generalizing count with
  | zero => exact ⟨_, _, rfl⟩
  | succ fuel ih =>
    rw [shortestFrom]
    split
    · exact ⟨_, _, rfl⟩
    · exact ih (count + 1)

theorem numeral_shortest (q : Rat) : ∀ c ∈ (shortest q).digits, Numeral c := by
  obtain ⟨m, e, hm⟩ := exists_shortestFrom q (pointPlace q) 16 1
  rw [shortest, hm]
  exact numeral_ofMantissa m e

/-! ### Layout -/

theorem numeral_exponentPart (e : Int) : ∀ c ∈ exponentPart e, Numeral c := by
  have hsign : Numeral (if 0 ≤ e then '+' else '-') := by split <;> decide
  exact List.forall_mem_cons.mpr ⟨by decide, List.forall_mem_cons.mpr ⟨hsign, numeral_digits _⟩⟩

/-- A layout adds only zeros, a point and an exponent. -/
theorem numeral_write (rule : Layout) {d : Decimal} (hd : ∀ c ∈ d.digits, Numeral c) :
    ∀ c ∈ rule.write d, Numeral c := by
  have hpoint : Numeral '.' := by decide
  have htake : ∀ n, ∀ c ∈ d.digits.take n, Numeral c := fun _ c h => hd c (List.mem_of_mem_take h)
  have hdrop : ∀ n, ∀ c ∈ d.digits.drop n, Numeral c := fun _ c h => hd c (List.mem_of_mem_drop h)
  unfold Layout.write
  dsimp only
  split
  · split
    · exact List.forall_mem_append.mpr ⟨hd, numeral_zeros _⟩
    · exact List.forall_mem_append.mpr ⟨htake _, List.forall_mem_cons.mpr ⟨hpoint, hdrop _⟩⟩
  · split
    · have hrest := List.forall_mem_append.mpr ⟨numeral_zeros (-d.point).toNat, hd⟩
      exact List.forall_mem_cons.mpr ⟨by decide, List.forall_mem_cons.mpr ⟨hpoint, hrest⟩⟩
    · have hexponent := numeral_exponentPart (d.point - 1)
      split
      · exact hexponent
      · next lead hdigits =>
        obtain ⟨hlead, -⟩ := List.forall_mem_cons.mp (hdigits ▸ hd)
        exact List.forall_mem_cons.mpr ⟨hlead, hexponent⟩
      · next lead rest _ hdigits =>
        obtain ⟨hlead, hrest⟩ := List.forall_mem_cons.mp (hdigits ▸ hd)
        have htail := List.forall_mem_append.mpr ⟨hrest, hexponent⟩
        exact List.forall_mem_cons.mpr ⟨hlead, List.forall_mem_cons.mpr ⟨hpoint, htail⟩⟩

/-! ### Numbers -/

theorem numeral_positiveChars (q : Rat) : ∀ c ∈ positiveChars q, Numeral c := by
  unfold positiveChars
  split
  · exact numeral_digits _
  · exact numeral_write _ (numeral_shortest q)

/-- The characters of every number are those of numbers. -/
theorem numeral_toChars (x : Number) : ∀ c ∈ x.toChars, Numeral c := by
  cases x with
  | nan => exact numeral_of_all (by decide +kernel)
  | posInf => exact numeral_of_all (by decide +kernel)
  | negInf => exact numeral_of_all (by decide +kernel)
  | finite q =>
    unfold toChars
    dsimp only
    split
    · exact List.forall_mem_cons.mpr ⟨by decide, numeral_positiveChars _⟩
    · exact numeral_positiveChars q

/-- The text of every number is printable ASCII. -/
theorem printable_toChars (x : Number) : ∀ c ∈ x.toChars, Printable c :=
  fun c hc => (numeral_toChars x c hc).printable

end Number

end EditorGutter
