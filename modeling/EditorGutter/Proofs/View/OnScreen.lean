import EditorGutter.Proofs.View.Geometry

/-!
The lines on screen lie in the document.

A view shows the lines from its offset on, up to one that is never past the last one of the document
(`not_lineCount_le_lastLine`).  The offset of a view that a host can arrive at is not below zero
(`Reachable.fromTop`): making a line visible takes it unchecked, but what is computed from it stays
on its side of zero, because rounding keeps order.  So a line on screen is not above the document
either (`FromTop.onScreen`).
-/
namespace EditorGutter

namespace Number

variable {x : Number}

theorem not_neg_max_zero (x : Number) : ¬ Number.max 0 x < 0 := by
  unfold Number.max
  split
  · exact not_nan_lt 0
  · split
    · next hle => exact not_lt_of_le hle
    · exact not_neg_natCast 0

end Number

namespace View

variable {v w : View} {b : Buffer} {line : Number}

/-! ### The lines on screen -/

theorem le_of_mem_linesFrom {last start : Number} {fuel : Nat}
    (h : line ∈ linesFrom last fuel start) : line ≤ last := by
  induction fuel generalizing start with
  | zero => cases h
  | succ fuel ih =>
    rw [linesFrom] at h
    split at h
    · next hstart =>
      rcases List.mem_cons.mp h with rfl | h
      · exact hstart
      · exact ih h
    · cases h

theorem not_neg_of_mem_linesFrom {last start : Number} {fuel : Nat} (hstart : ¬ start < 0)
    (h : line ∈ linesFrom last fuel start) : ¬ line < 0 := by
  induction fuel generalizing start with
  | zero => cases h
  | succ fuel ih =>
    rw [linesFrom] at h
    split at h
    · rcases List.mem_cons.mp h with rfl | h
      · exact hstart
      · exact ih (Number.not_neg_moveBy hstart last 1) h
    · cases h

/-! ### Views that a host can arrive at -/

/-- A view that does not begin above the first line, with a height that binary64 has. -/
structure FromTop (v : View) : Prop where
  offset : ¬ v.offset < 0
  height : (v.height : Number).Representable

theorem FromTop.ensureLineVisible (hv : v.FromTop) (x : Number) :
    (v.ensureLineVisible x).FromTop := by
  refine ⟨?_, by rw [ensureLineVisible_height]; exact hv.height⟩
  unfold View.ensureLineVisible
  split_ifs with hup hdown
  · exact Number.not_neg_max_zero x
  · -- the line is not below the height, which is taken from it
    have hsub : ¬ x - (v.height : Number) < 0 := by
      cases x with
      | nan => exact absurd hdown (Number.not_le_nan _)
      | negInf =>
        -- the end of the screen is not below zero
        have hend := Number.not_neg_add hv.offset (Number.not_neg_natCast v.height)
        generalize v.offset + (v.height : Number) = e at hdown hend
        cases e with
        | negInf => exact absurd rfl hend
        | nan | posInf | finite q => exact absurd hdown Bool.false_ne_true
      | posInf => exact Bool.false_ne_true
      | finite q =>
        have hle := height_le_of_add_le hv.height hv.offset hdown
        rw [show Number.finite q - (v.height : Number) = Number.round (q - v.height) from
          Number.finite_sub_finite _ _]
        exact Number.not_neg_round (sub_nonneg.mpr hle)
    exact Number.not_neg_add hsub (Number.not_neg_natCast 1)
  · exact hv.offset

theorem FromTop.move (hv : v.FromTop) {m : Move} (hm : m.argument.Representable)
    (h : v.move m = .ok w) : w.FromTop := by
  cases m with
  | resize x =>
    obtain ⟨-, hoffset, hx⟩ := resize_eq_ok h
    exact ⟨hoffset ▸ hv.offset, hx ▸ hm⟩
  | scrollTo x =>
    obtain ⟨-, hheight, n, hn, -⟩ := scrollTo_eq_ok h
    exact ⟨hn ▸ Number.not_neg_natCast n, hheight ▸ hv.height⟩
  | ensureLineVisible x =>
    obtain rfl := Except.ok.inj h
    exact hv.ensureLineVisible x

/-- Views that a host can arrive at with the numbers of binary64. -/
inductive Reachable : View → Prop
  | create {height offset id : Number} {v : View} (hheight : height.Representable)
    (h : create height offset id = .ok v) : Reachable v
  | move {v w : View} {m : Move} (hv : Reachable v) (hm : m.argument.Representable)
    (h : v.move m = .ok w) : Reachable w

theorem Reachable.fromTop (hv : v.Reachable) : v.FromTop := by
  induction hv with
  | create hheight h =>
    obtain ⟨⟨n, n_pos⟩, hn, h⟩ := exists_of_bind_eq_ok h
    obtain ⟨o, ho, h⟩ := exists_of_bind_eq_ok h
    obtain rfl := Except.ok.inj h
    obtain ⟨rfl, k, hk⟩ := checkOffset_eq_ok ho
    exact ⟨hk ▸ Number.not_neg_natCast k, checkHeight_eq_ok hn ▸ hheight⟩
  | move _ hm h ih => exact ih.move hm h

/-- A line on screen is neither above nor below the document. -/
theorem FromTop.onScreen (hv : v.FromTop) (h : line ∈ v.visibleLines b) :
    ¬ line < 0 ∧ ¬ (b.lineCount : Number) ≤ line :=
  ⟨not_neg_of_mem_linesFrom hv.offset h,
    fun hle => v.not_lineCount_le_lastLine b (Number.le_trans hle (le_of_mem_linesFrom h))⟩

end View

end EditorGutter
