import EditorGutter.Value.Compact

/-!
Decimal digits of a natural number, written and read.

A number is written digit by digit from the front (`ofNat_append_digit`), and reading goes through a
text in the same direction, so reading what was written gives the number back
(`continueDecimal?_ofNat`).  The other way round, a text without a leading zero that is read as a
number is what the number is written as (`ofNat_append`).  Hence a name that is an array index is
the text of that index, and no two names are the same one (`arrayIndex?_inj`).
-/
namespace EditorGutter

open Text

namespace Record

/-- The unit of a decimal digit. -/
def digitUnit (d : Nat) : UInt16 := UInt16.ofNat (0x30 + d)

theorem toNat_digitUnit {d : Nat} (h : d < 10) : (digitUnit d).toNat = 0x30 + d :=
  UInt16.toNat_ofNat_of_lt' (by show 0x30 + d < 0x10000; omega)

theorem digitValue?_eq_some {u : UInt16} {d : Nat} :
    digitValue? u = some d ↔ d < 10 ∧ u = digitUnit d := by
  have hrange : (0x30 ≤ u && u ≤ 0x39) = true ↔ 0x30 ≤ u.toNat ∧ u.toNat ≤ 0x39 := by
    rw [Bool.and_eq_true, decide_eq_true_iff, decide_eq_true_iff, UInt16.le_iff_toNat_le,
      UInt16.le_iff_toNat_le]
    rfl
  unfold digitValue?
  rw [Option.ite_none_right_eq_some, hrange, Option.some.injEq]
  constructor
  · rintro ⟨⟨hlow, hhigh⟩, rfl⟩
    refine ⟨by omega, UInt16.toNat_inj.mp ?_⟩
    rw [toNat_digitUnit (by omega)]
    omega
  · rintro ⟨hd, rfl⟩
    rw [toNat_digitUnit hd]
    omega

/-! ### Writing -/

theorem ofCodePoint_digitChar {d : Nat} (h : d < 10) :
    ofCodePoint d.digitChar.toNat = [digitUnit d] := by
  rw [Nat.toNat_digitChar_of_lt_ten h, ofCodePoint, if_pos (by omega)]
  rfl

theorem ofNat_of_lt {d : Nat} (h : d < 10) : ofNat d = [digitUnit d] := by
  rw [ofNat, Number.digits, Nat.toDigits_of_lt_base h, ofChars, List.flatMap_singleton,
    ofCodePoint_digitChar h]

/-- One more digit goes to the end. -/
theorem ofNat_append_digit {n d : Nat} (hn : 0 < n) (hd : d < 10) :
    ofNat (n * 10 + d) = ofNat n ++ [digitUnit d] := by
  have hdigits : Nat.toDigits 10 (n * 10 + d) = Nat.toDigits 10 n ++ Nat.toDigits 10 d := by
    rw [Nat.toDigits_append_toDigits (by decide) hn hd, Nat.mul_comm]
  rw [← ofNat_of_lt hd, ofNat, Number.digits, hdigits, ofChars, List.flatMap_append]
  rfl

/-! ### Reading -/

theorem continueDecimal?_append (n : Nat) (t t' : Text) :
    continueDecimal? n (t ++ t') = (continueDecimal? n t).bind fun m => continueDecimal? m t' := by
  induction t generalizing n with
  | nil => rfl
  | cons u rest ih =>
    rw [List.cons_append, continueDecimal?, continueDecimal?]
    rcases digitValue? u with - | d
    · rfl
    · exact ih _

/-- **A number is read back from its digits.** -/
theorem continueDecimal?_ofNat (n : Nat) : continueDecimal? 0 (ofNat n) = some n := by
  induction n using Nat.strongRecOn with
  | ind n ih =>
    have hdigit : ∀ m d, d < 10 → continueDecimal? m [digitUnit d] = some (m * 10 + d) := by
      intro m d hd
      rw [continueDecimal?, digitValue?_eq_some.mpr ⟨hd, rfl⟩]
      rfl
    rcases Nat.lt_or_ge n 10 with hlt | hge
    · rw [ofNat_of_lt hlt, hdigit 0 n hlt, Nat.zero_mul, Nat.zero_add]
    · have hn : n / 10 * 10 + n % 10 = n := by omega
      have hwritten : ofNat n = ofNat (n / 10) ++ [digitUnit (n % 10)] := by
        rw [← ofNat_append_digit (by omega) (by omega), hn]
      rw [hwritten, continueDecimal?_append, ih (n / 10) (by omega), Option.bind_some,
        hdigit _ _ (by omega), hn]

/-- Digits that continue a positive number are the end of what comes out. -/
theorem ofNat_append {m n : Nat} {t : Text} (hm : 0 < m) (h : continueDecimal? m t = some n) :
    ofNat n = ofNat m ++ t := by
  induction t generalizing m with
  | nil =>
    obtain rfl := Option.some.inj h
    exact (List.append_nil _).symm
  | cons u rest ih =>
    rw [continueDecimal?] at h
    split at h
    · next d hd =>
      obtain ⟨hlt, rfl⟩ := digitValue?_eq_some.mp hd
      rw [ih (by omega) h, ofNat_append_digit hm hlt, List.append_assoc]
      rfl
    · cases h

/-- A name that is an array index is the text of that index. -/
theorem eq_ofNat_of_arrayIndex? {name : Text} {i : Nat} (h : arrayIndex? name = some i) :
    name = ofNat i := by
  unfold arrayIndex? at h
  split at h
  · cases h
  · next u =>
    obtain ⟨hlt, rfl⟩ := digitValue?_eq_some.mp h
    exact (ofNat_of_lt hlt).symm
  · next u rest _ =>
    split at h
    · cases h
    · next hzero =>
      split at h
      · next n hn =>
        obtain ⟨-, h⟩ := Option.ite_none_right_eq_some.mp h
        obtain rfl := Option.some.inj h
        rw [continueDecimal?] at hn
        split at hn
        · -- the first digit is not zero, so the rest continues a positive number
          next d hd =>
          obtain ⟨hlt, rfl⟩ := digitValue?_eq_some.mp hd
          have hpos : 0 < d := Nat.pos_of_ne_zero fun hd => hzero (hd ▸ rfl)
          rw [Nat.zero_mul, Nat.zero_add] at hn
          rw [ofNat_append hpos hn, ofNat_of_lt hlt]
          rfl
        · cases hn
      · cases h

theorem arrayIndex?_inj {name name' : Text} {i : Nat} (h : arrayIndex? name = some i)
    (h' : arrayIndex? name' = some i) : name = name' :=
  (eq_ofNat_of_arrayIndex? h).trans (eq_ofNat_of_arrayIndex? h').symm

end Record

end EditorGutter
