import EditorGutter.Proofs.Number.Moving
import EditorGutter.Proofs.Results
import EditorGutter.View

/-!
The geometry of views in whole lines.

The last line that a view shows is never past the last one of the document, also where the offset is
a fraction and computing with it rounds (`not_lineCount_le_lastLine`).  A view whose offset is a
count shows a run of consecutive lines (`mem_visibleLines`).  Offsets stay counts under every move
that a host makes with whole arguments (`InLines.run`): resizing and scrolling check their argument,
and scrolling to what is asked for computes an offset whose rounding cannot fall below zero or
overflow, because height and argument are binary64 values themselves.
-/
namespace EditorGutter

namespace View

variable {v : View} {b : Buffer} {o : Nat}

/-! ### The last line on screen -/

/-- No view shows a line past the last one of the document. -/
theorem not_lineCount_le_lastLine (v : View) (b : Buffer) :
    ¬ (b.lineCount : Number) ≤ v.lastLine b := by
  rw [lastLine]
  rcases Number.min_cases (v.offset.moveBy b.lineCount v.height) b.lineCount with
    hnan | ⟨hle, hend⟩ | hend
  · rw [hnan]
    exact Number.not_le_nan _
  · rw [hend]
    exact Number.not_le_moveBy_neg_one b.lineCount_pos hle fun q => Number.le_wholeLimit_of_moveBy
  · rw [hend]
    refine Number.not_le_moveBy_neg_one b.lineCount_pos (Number.natCast_le_natCast.mpr le_rfl) ?_
    rintro q hq hfrac
    exact absurd (Number.finite.inj hq).symm (hfrac b.lineCount)

/-- **The last line on screen is computed in binary64**, as long as the lines of the document can be
counted there. -/
theorem lastLine_eq_sub_one (v : View) (hcount : b.lineCount ≤ Number.wholeLimit) :
    v.lastLine b = Number.min (v.offset + v.height) b.lineCount - 1 := by
  have hstop : Number.min (v.offset.moveBy b.lineCount v.height) b.lineCount =
      Number.min (v.offset + v.height) b.lineCount := by
    rcases Number.moveBy_cases v.offset b.lineCount v.height with ⟨o, ho, -, hmove⟩ | ⟨-, hmove⟩
    · have hsum : v.offset + (v.height : Number) = Number.round ((o + v.height : Nat) : Rat) := by
        rw [ho, Nat.cast_add]
        rfl
      rw [hsum, Number.min_round_natCast hcount, hmove]
      rfl
    · rw [hmove, Number.intCast_natCast]
  rw [lastLine, hstop]
  exact Number.moveBy_eq_add (n := -1) (by decide) (by omega) _

/-! ### Lines on screen -/

/-- The offset of a view is a count: its first line on screen is a whole one from zero on. -/
def AtLine (v : View) (o : Nat) : Prop := v.offset = (o : Number)

theorem lastLine_eq (h : v.AtLine o) (ho : o ≤ b.lineCount) :
    v.lastLine b = (((min (o + v.height) b.lineCount : Nat) - 1 : Int) : Number) := by
  have hmove : v.offset.moveBy b.lineCount v.height = ((o + v.height : Nat) : Number) := by
    rw [h]
    exact Number.moveBy_natCast (Number.natCast_le_natCast.mpr ho) v.height
  rw [lastLine, hmove, Number.min_natCast]
  exact Number.moveBy_of_le (Number.natCast_le_natCast.mpr (Nat.min_le_right _ _)) (-1)

theorem linesFrom_of_not_le {last line : Number} (h : ¬ line ≤ last) (fuel : Nat) :
    linesFrom last fuel line = [] := by
  cases fuel with
  | zero => rfl
  | succ fuel => exact if_neg h

/-- Counting up from `m` with enough fuel gives the lines from `m` to the last one. -/
theorem linesFrom_natCast (last : Int) (fuel m : Nat) (hfuel : last < m + fuel) :
    linesFrom (last : Number) fuel (m : Number) =
      (List.range' m (last + 1 - m).toNat).map fun l : Nat => (l : Number) := by
  induction fuel generalizing m with
  | zero =>
    have : (last + 1 - m).toNat = 0 := by omega
    simp [linesFrom, this]
  | succ fuel ih =>
    have hle : (m : Number) ≤ (last : Number) ↔ (m : Int) ≤ last := by
      rw [← Number.intCast_natCast, Number.intCast_le_intCast]
    rw [linesFrom]
    split
    · -- the line is shown, and the run goes on behind it
      next h =>
      have hm := hle.mp h
      have hcount : (last + 1 - m).toNat = (last + 1 - (m + 1 : Nat)).toNat + 1 := by
        push_cast
        omega
      rw [Number.moveBy_one h, ih (m + 1) (by push_cast; omega), hcount, List.range'_succ,
        List.map_cons]
    · -- past the last line both are empty
      next h =>
      have hm : ¬ (m : Int) ≤ last := fun h' => h (hle.mpr h')
      have : (last + 1 - m).toNat = 0 := by omega
      simp [this]

/-- A view at a line shows the run of lines from there that its height and the document allow. -/
theorem visibleLines_eq (h : v.AtLine o) :
    v.visibleLines b =
      (List.range' o (min (o + v.height) b.lineCount - o)).map fun l : Nat => (l : Number) := by
  have hcount := b.lineCount_pos
  have hheight := v.height_pos
  rcases Nat.lt_or_ge b.lineCount o with ho | ho
  · -- the screen begins past the document
    have hpast : ¬ (o : Number) ≤ v.lastLine b := fun hle =>
      v.not_lineCount_le_lastLine b
        (Number.le_trans (Number.natCast_le_natCast.mpr (Nat.le_of_lt ho)) hle)
    have hnone : min (o + v.height) b.lineCount - o = 0 := by omega
    rw [visibleLines, h, linesFrom_of_not_le hpast, hnone]
    rfl
  · rw [visibleLines, lastLine_eq h ho, h, linesFrom_natCast _ _ _ (by omega)]
    congr 2
    omega

theorem mem_visibleLines (h : v.AtLine o) {line : Number} :
    line ∈ v.visibleLines b ↔
      ∃ l : Nat, line = (l : Number) ∧ o ≤ l ∧ l < o + v.height ∧ l < b.lineCount := by
  rw [visibleLines_eq h, List.mem_map]
  constructor
  · rintro ⟨l, hl, rfl⟩
    rw [List.mem_range'_1] at hl
    exact ⟨l, rfl, by omega⟩
  · rintro ⟨l, rfl, hl⟩
    exact ⟨l, List.mem_range'_1.mpr (by omega), rfl⟩

/-- No line is shown twice. -/
theorem nodup_visibleLines (h : v.AtLine o) : (v.visibleLines b).Nodup := by
  rw [visibleLines_eq h]
  refine List.Nodup.map ?_ List.nodup_range'
  intro m n hmn
  exact Number.natCast_inj.mp hmn

/-! ### Moves -/

/-- A call that moves or resizes a view. -/
inductive Move where
  | resize (height : Number)
  | scrollTo (line : Number)
  | ensureLineVisible (line : Number)

/-- The number that a move is made with. -/
def Move.argument : Move → Number
  | .resize height => height
  | .scrollTo line => line
  | .ensureLineVisible line => line

/-- The argument of a move is a whole value of binary64. -/
def Move.Whole (m : Move) : Prop :=
  ∃ i : Int, m.argument = (i : Number) ∧ m.argument.Representable

/-- One move of a view. -/
def move (v : View) : Move → Except Fault View
  | .resize height => v.resize height
  | .scrollTo line => v.scrollTo line
  | .ensureLineVisible line => .ok (v.ensureLineVisible line)

/-- The view after a call, which a refused move leaves as it was. -/
def moved (v : View) (m : Move) : View :=
  match v.move m with
  | .ok w => w
  | .error _ => v

/-- The view after a sequence of calls. -/
def run (v : View) (ms : List Move) : View := ms.foldl moved v

/-- A view in whole lines: its offset is a count and its height a value of binary64. -/
structure InLines (v : View) : Prop where
  offset : ∃ o, v.AtLine o
  height : (v.height : Number).Representable

theorem checkHeight_eq_ok {x : Number} {n : { n : Nat // 0 < n }} (h : checkHeight x = .ok n) :
    x = (n.val : Number) := by
  unfold checkHeight at h
  split at h
  · next n' hn =>
    obtain rfl := Except.ok.inj h
    exact Number.eq_of_toPositive? hn
  · cases h

theorem checkOffset_eq_ok {x y : Number} (h : checkOffset x = .ok y) :
    y = x ∧ ∃ n : Nat, x = (n : Number) := by
  unfold checkOffset at h
  split at h
  · next n hn =>
    have hx := Number.toNat?_eq_some_iff.mp hn
    exact ⟨by rw [hx]; exact (Except.ok.inj h).symm, n, hx⟩
  · cases h

/-- What an accepted resizing gives: the same view with the height asked for. -/
theorem resize_eq_ok {x : Number} {w : View} (h : v.resize x = .ok w) :
    w.id = v.id ∧ w.offset = v.offset ∧ x = (w.height : Number) := by
  obtain ⟨⟨n, n_pos⟩, hc, h⟩ := exists_of_bind_eq_ok h
  obtain rfl := Except.ok.inj h
  exact ⟨rfl, rfl, checkHeight_eq_ok hc⟩

/-- What an accepted scrolling gives: the same view at the count asked for. -/
theorem scrollTo_eq_ok {x : Number} {w : View} (h : v.scrollTo x = .ok w) :
    w.id = v.id ∧ w.height = v.height ∧ ∃ n, w.AtLine n ∧ x = (n : Number) := by
  obtain ⟨y, hc, h⟩ := exists_of_bind_eq_ok h
  obtain rfl := Except.ok.inj h
  obtain ⟨rfl, n, hn⟩ := checkOffset_eq_ok hc
  exact ⟨rfl, rfl, n, hn, hn⟩

@[simp] theorem ensureLineVisible_id (v : View) (x : Number) :
    (v.ensureLineVisible x).id = v.id := by
  unfold ensureLineVisible
  split_ifs <;> rfl

@[simp] theorem ensureLineVisible_height (v : View) (x : Number) :
    (v.ensureLineVisible x).height = v.height := by
  unfold ensureLineVisible
  split_ifs <;> rfl

/-- A line at or below the end of a screen that begins at zero or below is not below the height of
the screen. -/
theorem height_le_of_add_le {h : Nat} {x : Number} {q : Rat} (hh : (h : Number).Representable)
    (hx : ¬ x < 0) (hle : x + (h : Number) ≤ .finite q) : (h : Rat) ≤ q := by
  have hround : Number.round (h : Rat) = .finite (h : Rat) := hh
  cases x with
  | nan => exact absurd hle Bool.false_ne_true
  | posInf => exact absurd hle Bool.false_ne_true
  | negInf => exact absurd rfl hx
  | finite a =>
    have ha : 0 ≤ a := Number.not_neg_finite.mp hx
    have hmono := Number.round_mono (a := (h : Rat)) (b := a + (h : Rat)) (by linarith)
    rw [hround] at hmono
    exact Number.finite_le_finite.mp (Number.le_trans hmono hle)

/-- Scrolling down to a whole line ends at a count: the line is not below the height, so their
rounded difference lies between zero and the line. -/
theorem exists_natCast_sub_add_one {h : Nat} {i : Int} (h_pos : 0 < h)
    (hh : (h : Number).Representable) (hi : (i : Number).Representable)
    (hle : (o : Number) + (h : Number) ≤ (i : Number)) :
    ∃ n : Nat, (i : Number) - (h : Number) + 1 = (n : Number) := by
  have hround_i : Number.round (i : Rat) = .finite (i : Rat) := hi
  have hhi : (h : Rat) ≤ (i : Rat) := height_le_of_add_le hh (Number.not_neg_natCast o) hle
  have hhi' : (h : Int) ≤ i := by exact_mod_cast hhi
  -- the difference is a count that does not exceed the line
  obtain ⟨d, hd⟩ : ∃ d : Nat, (i : Number) - (h : Number) = (d : Number) := by
    have hsub : (i : Number) - (h : Number) = Number.round ((i - h : Int) : Rat) := by
      rw [Rat.intCast_sub]
      exact Number.finite_sub_finite _ _
    rw [hsub]
    exact Number.round_intCast_of_le (by omega) (by push_cast; linarith) hround_i
  have hdi : (d : Rat) ≤ (i : Rat) := by
    have hh0 : (0 : Rat) ≤ h := by positivity
    have hmono : (i : Number) - (h : Number) ≤ (i : Number) := by
      have := Number.round_mono (a := (i : Rat) - (h : Rat)) (b := (i : Rat)) (by linarith)
      rwa [hround_i, ← Number.finite_sub_finite] at this
    rw [hd] at hmono
    exact Number.finite_le_finite.mp hmono
  have hadd : (d : Number) + 1 = Number.round ((d + 1 : Int) : Rat) := by
    rw [Rat.intCast_add]
    rfl
  rw [hd, hadd]
  exact Number.round_intCast_of_le (by omega) (by push_cast; linarith) hround_i

/-- A whole scroll to a line keeps the offset a count. -/
theorem InLines.ensureLineVisible (hv : v.InLines) {i : Int} (hi : (i : Number).Representable) :
    ∃ n, (v.ensureLineVisible (i : Number)).AtLine n := by
  obtain ⟨⟨o, ho⟩, hheight⟩ := hv
  unfold View.ensureLineVisible
  split_ifs with h₁ h₂
  · -- upward the offset is the line itself, but not below zero
    exact ⟨i.toNat, Number.max_zero_intCast i⟩
  · rw [ho] at h₂
    exact exists_natCast_sub_add_one v.height_pos hheight hi h₂
  · exact ⟨o, ho⟩

/-! ### Runs -/

theorem moved_id (v : View) (m : Move) : (v.moved m).id = v.id := by
  unfold moved
  split
  · next w h =>
    cases m with
    | resize x => exact (resize_eq_ok h).1
    | scrollTo x => exact (scrollTo_eq_ok h).1
    | ensureLineVisible x =>
      obtain rfl := Except.ok.inj h
      exact ensureLineVisible_id v x
  · rfl

theorem run_id (v : View) (ms : List Move) : (v.run ms).id = v.id := by
  induction ms generalizing v with
  | nil => rfl
  | cons m ms ih => exact (ih (v.moved m)).trans (moved_id v m)

/-- The height stays a value of binary64: an accepted one is the argument it was asked with. -/
theorem representable_height_moved (hv : (v.height : Number).Representable) {m : Move}
    (hm : m.argument.Representable) : ((v.moved m).height : Number).Representable := by
  unfold View.moved
  split
  · next w h =>
    cases m with
    | resize x =>
      obtain ⟨-, -, hx⟩ := resize_eq_ok h
      exact hx ▸ hm
    | scrollTo x =>
      obtain ⟨-, hheight, -⟩ := scrollTo_eq_ok h
      exact hheight ▸ hv
    | ensureLineVisible x =>
      obtain rfl := Except.ok.inj h
      rw [ensureLineVisible_height]
      exact hv
  · exact hv

/-- Resizing keeps the offset a count, whatever height is asked for. -/
theorem InLines.resize (hv : v.InLines) (height : Number) :
    ∃ n, (v.moved (.resize height)).AtLine n := by
  unfold View.moved
  split
  · next w h =>
    obtain ⟨-, hoffset, -⟩ := resize_eq_ok h
    obtain ⟨o, ho⟩ := hv.offset
    exact ⟨o, hoffset.trans ho⟩
  · exact hv.offset

/-- Scrolling keeps the offset a count, whatever line is asked for. -/
theorem InLines.scrollTo (hv : v.InLines) (line : Number) :
    ∃ n, (v.moved (.scrollTo line)).AtLine n := by
  unfold View.moved
  split
  · next w h =>
    obtain ⟨-, -, n, hn, -⟩ := scrollTo_eq_ok h
    exact ⟨n, hn⟩
  · exact hv.offset

theorem InLines.moved (hv : v.InLines) {m : Move} (hm : m.Whole) : (v.moved m).InLines := by
  obtain ⟨i, hi, hrep⟩ := hm
  refine ⟨?_, representable_height_moved hv.height hrep⟩
  cases m with
  | resize x => exact hv.resize x
  | scrollTo x => exact hv.scrollTo x
  | ensureLineVisible x =>
    obtain rfl : x = (i : Number) := hi
    exact hv.ensureLineVisible hrep

/-- **Whole moves keep a view in whole lines.** -/
theorem InLines.run (hv : v.InLines) {ms : List Move} (hms : ∀ m ∈ ms, m.Whole) :
    (v.run ms).InLines := by
  induction ms generalizing v with
  | nil => exact hv
  | cons m ms ih =>
    obtain ⟨hm, hrest⟩ := List.forall_mem_cons.mp hms
    exact ih (hv.moved hm) hrest

end View

end EditorGutter
