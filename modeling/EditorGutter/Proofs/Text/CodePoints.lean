import EditorGutter.Text.Grapheme
import Mathlib.Data.List.Chain

/-!
Reading a text as code points, piece by piece.

A text is read in two pieces exactly as it is read in one, unless the cut falls between the two
halves of a surrogate pair (`codePoints_append`).  The code points that come out have no such halves
next to each other (`isReading_codePoints`), and code points of that kind are read back as they were
written (`codePoints_ofCodePoints`).
-/
namespace EditorGutter

namespace Text

/-! ### Reading two pieces -/

/-- No surrogate pair reaches over the cut between two texts. -/
def CutApart (t t' : Text) : Prop :=
  ∀ u ∈ t.getLast?, ∀ v ∈ t'.head?, ¬ (isHighSurrogate u && isLowSurrogate v) = true

variable {t t' : Text}

theorem cutApart_nil : CutApart [] t' := by
  intro u hu
  cases hu

theorem CutApart.of_cons {u v : UInt16} {rest : Text} (h : CutApart (u :: v :: rest) t') :
    CutApart (v :: rest) t' := by
  intro w hw
  exact h w (by rwa [List.getLast?_cons_cons])

theorem codePoints_append (h : CutApart t t') :
    codePoints (t ++ t') = codePoints t ++ codePoints t' := by
  fun_induction codePoints t with
  | case1 => rfl
  | case2 u =>
    rcases t' with - | ⟨v, rest⟩
    · rfl
    · have hpair := h u rfl v rfl
      simp only [List.cons_append, List.nil_append, codePoints, if_neg hpair]
  | case3 u v rest hpair ih =>
    rcases rest with - | ⟨w, rest⟩
    · simp only [List.cons_append, List.nil_append, codePoints, if_pos hpair]
    · simp only [List.cons_append, codePoints, if_pos hpair]
      exact congrArg _ (ih h.of_cons.of_cons)
  | case4 u v rest hpair ih =>
    have ih := ih h.of_cons
    simp only [List.cons_append] at ih
    simp only [List.cons_append, codePoints, if_neg hpair, ih]

/-! ### Surrogates -/

theorem isHighSurrogate_iff {u : UInt16} :
    isHighSurrogate u = true ↔ 0xD800 ≤ u.toNat ∧ u.toNat ≤ 0xDBFF := by
  simp [isHighSurrogate, UInt16.le_iff_toNat_le]

theorem isLowSurrogate_iff {u : UInt16} :
    isLowSurrogate u = true ↔ 0xDC00 ≤ u.toNat ∧ u.toNat ≤ 0xDFFF := by
  simp [isLowSurrogate, UInt16.le_iff_toNat_le]

/-- The two code points are not the halves of a surrogate pair. -/
def ReadApart (c d : Nat) : Prop :=
  ¬ ((0xD800 ≤ c ∧ c ≤ 0xDBFF) ∧ 0xDC00 ≤ d ∧ d ≤ 0xDFFF)

/-- Code points that a text can be read as. -/
structure IsReading (cs : List Nat) : Prop where
  lt : ∀ c ∈ cs, c < 0x110000
  apart : cs.IsChain ReadApart

theorem IsReading.piece {cs cs' : List Nat} (h : IsReading cs) (hcs : cs' <:+: cs) :
    IsReading cs' := by
  refine ⟨fun c hc => h.lt c (hcs.subset hc), ?_⟩
  obtain ⟨before, after, rfl⟩ := hcs
  exact h.apart.left_of_append.right_of_append

theorem pairCodePoint_bounds {u v : UInt16} (h : (isHighSurrogate u && isLowSurrogate v) = true) :
    0x10000 ≤ pairCodePoint u v ∧ pairCodePoint u v < 0x110000 := by
  rw [Bool.and_eq_true, isHighSurrogate_iff, isLowSurrogate_iff] at h
  unfold pairCodePoint
  omega

/-- A text starts with its first code point, or with the first half of it. -/
theorem head?_codePoints {c : Nat} (h : c ∈ (codePoints t).head?) :
    0x10000 ≤ c ∨ ∃ u ∈ t.head?, c = u.toNat := by
  fun_cases codePoints t with
  | case1 => cases h
  | case2 u => exact .inr ⟨u, rfl, (Option.some.inj h).symm⟩
  | case3 u v rest hpair =>
    rw [codePoints, if_pos hpair] at h
    obtain rfl := Option.some.inj h
    exact .inl (pairCodePoint_bounds hpair).1
  | case4 u v rest hpair =>
    rw [codePoints, if_neg hpair] at h
    exact .inr ⟨u, rfl, (Option.some.inj h).symm⟩

theorem isReading_codePoints (t : Text) : IsReading (codePoints t) := by
  fun_induction codePoints t with
  | case1 => exact ⟨List.forall_mem_nil _, .nil⟩
  | case2 u =>
    refine ⟨?_, .singleton _⟩
    intro c hc
    obtain rfl := List.mem_singleton.mp hc
    have := u.toNat_lt
    omega
  | case3 u v rest hpair ih =>
    obtain ⟨hle, hlt⟩ := pairCodePoint_bounds hpair
    refine ⟨List.forall_mem_cons.mpr ⟨hlt, ih.lt⟩, ih.apart.cons ?_⟩
    intro d _
    unfold ReadApart
    omega
  | case4 u v rest hpair ih =>
    have hu := u.toNat_lt
    refine ⟨List.forall_mem_cons.mpr ⟨by omega, ih.lt⟩, ih.apart.cons ?_⟩
    intro d hd
    rw [Bool.and_eq_true, isHighSurrogate_iff, isLowSurrogate_iff] at hpair
    rcases head?_codePoints hd with hd | ⟨w, hw, rfl⟩
    · unfold ReadApart
      omega
    · obtain rfl : v = w := Option.some.inj hw
      exact hpair

/-! ### Reading what was written -/

theorem toNat_ofNat_of_lt {n : Nat} (h : n < 0x10000) : (UInt16.ofNat n).toNat = n :=
  Nat.mod_eq_of_lt h

theorem codePoints_ofCodePoint {c : Nat} (h : c < 0x110000) :
    codePoints (ofCodePoint c) = [c] := by
  unfold ofCodePoint
  split
  · next hc => rw [codePoints, toNat_ofNat_of_lt hc]
  · next hc =>
    have hhigh : (UInt16.ofNat (0xD800 + (c - 0x10000) / 0x400)).toNat = _ :=
      toNat_ofNat_of_lt (by omega)
    have hlow : (UInt16.ofNat (0xDC00 + (c - 0x10000) % 0x400)).toNat = _ :=
      toNat_ofNat_of_lt (by omega)
    generalize UInt16.ofNat (0xD800 + (c - 0x10000) / 0x400) = u at hhigh ⊢
    generalize UInt16.ofNat (0xDC00 + (c - 0x10000) % 0x400) = v at hlow ⊢
    have hpair : (isHighSurrogate u && isLowSurrogate v) = true := by
      rw [Bool.and_eq_true, isHighSurrogate_iff, isLowSurrogate_iff]
      omega
    have hpoint : pairCodePoint u v = c := by
      unfold pairCodePoint
      omega
    rw [codePoints, if_pos hpair, hpoint, codePoints]

theorem ofCodePoints_cons (c : CodePoint) (cs : List CodePoint) :
    ofCodePoints (c :: cs) = ofCodePoint c ++ ofCodePoints cs := rfl

/-- A code point whose last unit is the first half of a pair is that half alone. -/
theorem high_of_getLast?_ofCodePoint {c : Nat} {u : UInt16}
    (hu : u ∈ (ofCodePoint c).getLast?) (h : isHighSurrogate u = true) :
    0xD800 ≤ c ∧ c ≤ 0xDBFF := by
  rw [isHighSurrogate_iff] at h
  unfold ofCodePoint at hu
  split at hu
  · next hlt =>
    obtain rfl : UInt16.ofNat c = u := Option.some.inj hu
    rwa [toNat_ofNat_of_lt hlt] at h
  · obtain rfl : UInt16.ofNat (0xDC00 + (c - 0x10000) % 0x400) = u := Option.some.inj hu
    rw [toNat_ofNat_of_lt (by omega)] at h
    omega

/-- A code point whose first unit is the second half of a pair is that half alone. -/
theorem low_of_head?_ofCodePoint {c : Nat} {u : UInt16} (hc : c < 0x110000)
    (hu : u ∈ (ofCodePoint c).head?) (h : isLowSurrogate u = true) :
    0xDC00 ≤ c ∧ c ≤ 0xDFFF := by
  rw [isLowSurrogate_iff] at h
  unfold ofCodePoint at hu
  split at hu
  · next hlt =>
    obtain rfl : UInt16.ofNat c = u := Option.some.inj hu
    rwa [toNat_ofNat_of_lt hlt] at h
  · obtain rfl : UInt16.ofNat (0xD800 + (c - 0x10000) / 0x400) = u := Option.some.inj hu
    rw [toNat_ofNat_of_lt (by omega)] at h
    omega

theorem cutApart_ofCodePoint {c d : Nat} (hd : d < 0x110000) (h : ReadApart c d) (t : Text) :
    CutApart (ofCodePoint c) (ofCodePoint d ++ t) := by
  intro u hu v hv hpair
  rw [List.head?_append_of_ne_nil _ (ofCodePoint_ne_nil d)] at hv
  rw [Bool.and_eq_true] at hpair
  exact h ⟨high_of_getLast?_ofCodePoint hu hpair.1, low_of_head?_ofCodePoint hd hv hpair.2⟩

theorem codePoints_ofCodePoints {cs : List Nat} (h : IsReading cs) :
    codePoints (ofCodePoints cs) = cs := by
  induction cs with
  | nil => rfl
  | cons c cs ih =>
    obtain ⟨hlt, hlts⟩ := List.forall_mem_cons.mp h.lt
    obtain ⟨hapart, haparts⟩ := List.isChain_cons.mp h.apart
    have hcut : CutApart (ofCodePoint c) (ofCodePoints cs) := by
      rcases cs with - | ⟨d, ds⟩
      · nofun
      · exact cutApart_ofCodePoint (hlts d List.mem_cons_self) (hapart d rfl) _
    rw [ofCodePoints_cons, codePoints_append hcut, codePoints_ofCodePoint hlt, ih ⟨hlts, haparts⟩,
      List.singleton_append]

end Text

end EditorGutter
