import EditorGutter.Number.Count
import EditorGutter.Proofs.Number.Clamping
import EditorGutter.Proofs.View.Geometry

/-!
Which calls keep a view in whole lines.

Resizing and scrolling refuse anything but counts, so they keep the offset of a view a count for
every argument.  Making a line visible takes its argument as it comes: NaN and lines on screen
change nothing, and what is not above zero scrolls to the first line, but a fraction off screen
becomes the offset or is carried into it without rounding, and infinity makes it infinite.

`View.Admits` is the condition on a single call, and `InLines.moved_iff` shows that it is exact;
`run_create_iff` says so for the runs of calls on a constructed view.
-/
namespace EditorGutter

namespace View

variable {v : View} {m : Move} {ms : List Move} {x : Number}

/-! ### Calls that are admitted -/

/-- A line is shown without leaving whole lines if it is a whole one, if it is not above zero, or
if it is neither before the first line on screen nor behind the last. -/
def Admits (v : View) : Move → Prop
  | .ensureLineVisible line =>
    line.toInt?.isSome ∨ line ≤ 0 ∨ ¬ line < v.offset ∧ ¬ v.offset + v.height ≤ line
  | _ => True

instance (v : View) : (m : Move) → Decidable (v.Admits m)
  | .ensureLineVisible _ => inferInstanceAs (Decidable (_ ∨ _ ∨ _))
  | .resize _ => isTrue trivial
  | .scrollTo _ => isTrue trivial

/-- Every call is admitted by the view that it finds. -/
def AdmitsAll (v : View) : List Move → Prop
  | [] => True
  | m :: ms => v.Admits m ∧ (v.moved m).AdmitsAll ms

instance decidableAdmitsAll : (v : View) → (ms : List Move) → Decidable (v.AdmitsAll ms)
  | _, [] => isTrue trivial
  | v, m :: ms =>
    have := decidableAdmitsAll (v.moved m) ms
    inferInstanceAs (Decidable (_ ∧ _))

/-! ### Fractions -/

/-- A fraction minus a count is a fraction. -/
theorem not_exists_natCast_sub {q : Rat} (hfrac : ∀ i : Int, q ≠ i) (k : Nat) :
    ¬ ∃ n : Nat, Number.finite (q - k) = (n : Number) := by
  rintro ⟨n, hn⟩
  have hq : q - k = n := Number.finite.inj hn
  refine hfrac (n + k) ?_
  push_cast
  linarith

/-- Scrolling down to a fraction computes without rounding. -/
theorem finite_sub_add_one {h : Nat} {q : Rat} (h_pos : 0 < h)
    (hq : (Number.finite q).Representable) (hfrac : ∀ i : Int, q ≠ i) (hhq : (h : Rat) ≤ q) :
    Number.finite q - (h : Number) + 1 = .finite (q - (h - 1 : Nat)) := by
  have hpred : ((h - 1 : Nat) : Rat) = h - 1 := Nat.cast_pred h_pos
  calc Number.finite q - (h : Number) + 1
      = Number.round (q - h) + 1 := by rw [← Number.finite_sub_finite]; rfl
    _ = Number.round (q - h + 1) := by rw [Number.round_sub_natCast hq hfrac hhq]; rfl
    _ = Number.round (q - (h - 1 : Nat)) := by congr 1; rw [hpred]; ring
    _ = .finite (q - (h - 1 : Nat)) :=
      Number.round_sub_natCast hq hfrac (by rw [hpred]; linarith)

/-- A fraction above zero that is off screen puts the view off whole lines. -/
theorem InLines.not_atLine_of_fraction (hv : v.InLines) {q : Rat}
    (hq : (Number.finite q).Representable) (hfrac : ∀ i : Int, q ≠ i) (hpos : 0 < q)
    (hoff : Number.finite q < v.offset ∨ v.offset + v.height ≤ Number.finite q) :
    ¬ ∃ n, (v.ensureLineVisible (.finite q)).AtLine n := by
  obtain ⟨⟨o, ho⟩, hheight⟩ := hv
  unfold View.ensureLineVisible AtLine
  split_ifs with h₁ h₂
  · -- upward the fraction becomes the offset
    show ¬ ∃ n : Nat, Number.max 0 (.finite q) = (n : Number)
    rw [Number.max_zero_finite, max_eq_right hpos.le]
    rintro ⟨n, hn⟩
    exact hfrac n (Number.finite.inj hn)
  · -- downward its part below the unit is kept
    rw [ho] at h₂
    have hle := height_le_of_add_le hheight (Number.not_neg_natCast o) h₂
    show ¬ ∃ n : Nat, Number.finite q - (v.height : Number) + 1 = (n : Number)
    rw [finite_sub_add_one v.height_pos hq hfrac hle]
    exact not_exists_natCast_sub hfrac _
  · exact absurd hoff (not_or.mpr ⟨h₁, h₂⟩)

/-! ### One call -/

/-- Scrolling to infinity goes past every line. -/
theorem InLines.not_atLine_posInf (hv : v.InLines) :
    ¬ ∃ n, (v.ensureLineVisible .posInf).AtLine n := by
  obtain ⟨⟨o, ho⟩, -⟩ := hv
  have hup : ¬ Number.posInf < v.offset := by
    rw [ho]
    exact Bool.false_ne_true
  have hdown : v.offset + v.height ≤ .posInf := by
    rw [ho]
    exact Number.round_le_posInf _
  rw [View.ensureLineVisible, if_neg hup, if_pos hdown]
  rintro ⟨n, hn⟩
  cases hn

/-- What is not above zero scrolls to the first line. -/
theorem InLines.atLine_of_nonpos (hv : v.InLines) (hx : x ≤ 0) :
    ∃ n, (v.ensureLineVisible x).AtLine n := by
  obtain ⟨⟨o, ho⟩, hheight⟩ := hv
  unfold View.ensureLineVisible
  split_ifs with h₁ h₂
  · refine ⟨0, ?_⟩
    show Number.max 0 x = 0
    cases x with
    | nan => cases hx
    | posInf => cases hx
    | negInf => rfl
    | finite q =>
      have hq : q ≤ 0 := Number.finite_le_finite.mp hx
      rw [Number.max_zero_finite, max_eq_left hq]
      rfl
  · -- the screen would have to end at zero or above
    rw [ho] at h₂
    have hle : (v.height : Rat) ≤ 0 :=
      height_le_of_add_le hheight (Number.not_neg_natCast o) (Number.le_trans h₂ hx)
    have hpos : (0 : Rat) < v.height := Nat.cast_pos.mpr v.height_pos
    exact absurd hle (not_le.mpr hpos)
  · exact ⟨o, ho⟩

/-- A line is shown in whole lines exactly if it is admitted. -/
theorem InLines.atLine_ensureLineVisible_iff (hv : v.InLines) (hx : x.Representable) :
    (∃ n, (v.ensureLineVisible x).AtLine n) ↔ v.Admits (.ensureLineVisible x) := by
  constructor
  · intro h
    by_contra hnot
    simp only [Admits, not_or, not_and_or, not_not] at hnot
    obtain ⟨hfrac, hpos, hoff⟩ := hnot
    cases x with
    | nan => exact hoff.elim (Number.not_nan_lt _) (Number.not_le_nan _)
    | negInf => exact hpos rfl
    | posInf => exact hv.not_atLine_posInf h
    | finite q =>
      have hfrac' : ∀ i : Int, q ≠ i := by
        rintro i rfl
        exact hfrac (congrArg Option.isSome (Number.toInt?_intCast i))
      have hpos' : 0 < q := not_le.mp fun hle => hpos (Number.finite_le_finite.mpr hle)
      exact hv.not_atLine_of_fraction hx hfrac' hpos' hoff h
  · rintro (hwhole | hle | ⟨h₁, h₂⟩)
    · obtain ⟨i, hi⟩ := Option.isSome_iff_exists.mp hwhole
      obtain rfl := Number.toInt?_eq_some_iff.mp hi
      exact hv.ensureLineVisible hx
    · exact hv.atLine_of_nonpos hle
    · rw [View.ensureLineVisible, if_neg h₁, if_neg h₂]
      exact hv.offset

/-- **A call keeps a view in whole lines exactly if it is admitted.** -/
theorem InLines.moved_iff (hv : v.InLines) (hm : m.argument.Representable) :
    (v.moved m).InLines ↔ v.Admits m := by
  have hheight := representable_height_moved hv.height hm
  cases m with
  | resize height => exact iff_of_true ⟨hv.resize height, hheight⟩ trivial
  | scrollTo line => exact iff_of_true ⟨hv.scrollTo line, hheight⟩ trivial
  | ensureLineVisible line =>
    have hline : line.Representable := hm
    rw [← hv.atLine_ensureLineVisible_iff hline]
    exact ⟨fun h => h.offset, fun h => ⟨h, hheight⟩⟩

/-! ### Runs -/

/-- A view is in whole lines all along a run exactly if every call of it is admitted. -/
theorem InLines.run_iff (hv : v.InLines) (hms : ∀ m ∈ ms, m.argument.Representable) :
    (∀ before, before <+: ms → ∃ o, (v.run before).AtLine o) ↔ v.AdmitsAll ms := by
  induction ms generalizing v with
  | nil =>
    refine iff_of_true ?_ trivial
    intro before hbefore
    rw [List.prefix_nil.mp hbefore]
    exact hv.offset
  | cons m ms ih =>
    obtain ⟨hm, hrest⟩ := List.forall_mem_cons.mp hms
    constructor
    · intro h
      have hmoved : (v.moved m).InLines :=
        ⟨h [m] (List.cons_prefix_cons.mpr ⟨rfl, List.nil_prefix⟩),
          representable_height_moved hv.height hm⟩
      refine ⟨(hv.moved_iff hm).mp hmoved, (ih hmoved hrest).mp ?_⟩
      intro before hbefore
      exact h (m :: before) (List.cons_prefix_cons.mpr ⟨rfl, hbefore⟩)
    · rintro ⟨hadmits, hall⟩ before hbefore
      have hmoved := (hv.moved_iff hm).mpr hadmits
      rcases List.prefix_cons_iff.mp hbefore with rfl | ⟨rest, rfl, hprefix⟩
      · exact hv.offset
      · exact (ih hmoved hrest).mpr hall rest hprefix

/-- A view that could be constructed is in whole lines. -/
theorem inLines_create {height offset id : Number} (hv : create height offset id = .ok v)
    (hheight : height.Representable) : v.InLines := by
  obtain ⟨⟨n, n_pos⟩, hn, hv⟩ := exists_of_bind_eq_ok hv
  obtain ⟨o, ho, hv⟩ := exists_of_bind_eq_ok hv
  obtain rfl := Except.ok.inj hv
  obtain ⟨rfl, k, hk⟩ := checkOffset_eq_ok ho
  exact ⟨⟨k, hk⟩, checkHeight_eq_ok hn ▸ hheight⟩

/-- **A constructed view stays in whole lines exactly as long as its calls are admitted.**  As long
as they are, it shows lines of the document only.  Its height is positive after any calls, and a
refused call changes nothing. -/
theorem run_create_iff {height offset id : Number} (hv : create height offset id = .ok v)
    (hheight : height.Representable) (hms : ∀ m ∈ ms, m.argument.Representable) :
    ((∀ before, before <+: ms → ∃ o, (v.run before).AtLine o) ↔ v.AdmitsAll ms) ∧
    (v.AdmitsAll ms → ∀ before, before <+: ms → ∀ b, ∀ line ∈ (v.run before).visibleLines b,
      ∃ l : Nat, line = (l : Number) ∧ l < b.lineCount) ∧
    0 < (v.run ms).height ∧
    ∀ m e, (v.run ms).move m = .error e → (v.run ms).moved m = v.run ms := by
  have hrun := (inLines_create hv hheight).run_iff hms
  refine ⟨hrun, ?_, (v.run ms).height_pos, ?_⟩
  · intro hall before hbefore b line hline
    obtain ⟨o, ho⟩ := hrun.mpr hall before hbefore
    obtain ⟨l, hl, -, -, hcount⟩ := (mem_visibleLines ho).mp hline
    exact ⟨l, hl, hcount⟩
  · intro m e he
    rw [moved, he]

/-- Calls that a view of five rows admits from its fourth line on: a line far down, a fraction on
screen, a fraction and a NaN that are refused, and a fraction above the document. -/
def admittedMoves : List Move :=
  [.ensureLineVisible 9, .ensureLineVisible (.finite (15 / 2)), .scrollTo (.finite (1 / 2)),
    .resize .nan, .ensureLineVisible (.finite (-1 / 2))]

theorem run_create_iff_admitted :
    ∃ v, create 5 3 1 = .ok v ∧ (5 : Number).Representable ∧
      (∀ m ∈ admittedMoves, m.argument.Representable) ∧
      (∀ before, before <+: admittedMoves → ∃ o, (v.run before).AtLine o) ∧
      (v.run (admittedMoves.take 4)).AtLine 5 ∧ (v.run admittedMoves).AtLine 0 := by
  have hheight : (5 : Number).Representable := Number.representable_natCast (by decide)
  have hmoves : ∀ m ∈ admittedMoves, m.argument.Representable := by
    intro m hm
    simp only [admittedMoves, List.mem_cons, List.not_mem_nil, or_false] at hm
    rcases hm with rfl | rfl | rfl | rfl | rfl
    · exact Number.representable_natCast (n := 9) (by decide)
    · exact (by decide +kernel : Number.round (15 / 2) = .finite (15 / 2))
    · exact (by decide +kernel : Number.round (1 / 2) = .finite (1 / 2))
    · trivial
    · exact (by decide +kernel : Number.round (-1 / 2) = .finite (-1 / 2))
  have hv : create 5 3 1 = .ok ⟨1, 3, 5, by decide⟩ := rfl
  refine ⟨_, hv, hheight, hmoves, ?_, ?_, ?_⟩
  · exact (run_create_iff hv hheight hmoves).1.mpr (by decide +kernel)
  · unfold AtLine
    decide +kernel
  · unfold AtLine
    decide +kernel

/-- Asked to show the line 1/2, a view at its fourth line moves to the offset 1/2 and shows it as a
line, where a scroll to it is refused. -/
theorem not_atLine_fraction :
    ∃ v, create 5 3 1 = .ok v ∧ (Number.finite (1 / 2)).Representable ∧
      v.scrollTo (.finite (1 / 2)) = .error (.range (.viewOffset (.finite (1 / 2)))) ∧
      (v.run [.ensureLineVisible (.finite (1 / 2))]).offset = .finite (1 / 2) ∧
      Number.finite (1 / 2) ∈ (v.run [.ensureLineVisible (.finite (1 / 2))]).visibleLines
        (Buffer.ofText (Text.ofString "a\nb\nc")) ∧
      ¬ ∃ o, (v.run [.ensureLineVisible (.finite (1 / 2))]).AtLine o := by
  have hoffset : ((⟨1, 3, 5, by decide⟩ : View).run
      [.ensureLineVisible (.finite (1 / 2))]).offset = .finite (1 / 2) := by
    decide +kernel
  have hcount : (Number.finite (1 / 2)).toNat? = none := by decide +kernel
  refine ⟨⟨1, 3, 5, by decide⟩, rfl, ?_, ?_, hoffset, by decide +kernel, ?_⟩
  · exact (by decide +kernel : Number.round (1 / 2) = .finite (1 / 2))
  · rw [View.scrollTo, checkOffset, hcount]
    rfl
  · rintro ⟨o, ho⟩
    have hhalf : ((1 / 2 : Rat)).den = ((o : Nat) : Rat).den :=
      congrArg Rat.den (Number.finite.inj (hoffset.symm.trans ho))
    rw [Rat.den_natCast] at hhalf
    exact absurd hhalf (by decide +kernel)

end View

end EditorGutter
