import EditorGutter.Proofs.Buffer.OffsetLines
import EditorGutter.Proofs.Number.Rounding
import EditorGutter.Selection

/-!
Where the cursor of a range drawn forward stands.

Such a cursor is meant to stand on the last selected character, at the offset where its code point
starts (`Text.lastPointStart`).  It is found by stepping back over one unit, and over a second one
if the first is the low half of a surrogate pair (`Range.cursor_natCast`).  Whether the second unit
is the high half is not looked at.  So the cursor misses the character exactly if that is a low
surrogate that stands alone and is not the first unit of the text, and it misses the line exactly if
a line feed comes before such a surrogate (`Range.cursor_eq_lastPointStart_iff`).

The cursor of a range that reaches past the text stands one before its head, which is rounded if the
head is past the whole values of binary64 (`Range.cursor_of_length_lt`).
-/
namespace EditorGutter

/-! ### The last code point of a text -/

namespace Text

/-- The offset at which the last code point of a text starts. -/
def lastPointStart (t : Text) : Nat := (ofCodePoints (codePoints t).dropLast).length

variable {t : Text} {o : Nat}

/-- After a unit that starts no pair with it, the last unit is a code point by itself. -/
theorem lastPointStart_concat {v : UInt16} (h : CutApart t [v]) :
    lastPointStart (t ++ [v]) = t.length := by
  have hpoints : codePoints (t ++ [v]) = codePoints t ++ [v.toNat] := codePoints_append h
  rw [lastPointStart, hpoints, List.dropLast_concat, ofCodePoints_codePoints]

theorem lastPointStart_pair {u v : UInt16} (h : (isHighSurrogate u && isLowSurrogate v) = true) :
    lastPointStart (t ++ [u, v]) = t.length := by
  have hcut : CutApart t [u, v] := by
    intro w _ u' hu' hpair
    obtain rfl : u = u' := Option.some.inj hu'
    -- a unit is not both halves of a pair
    rw [Bool.and_eq_true, isHighSurrogate_iff, isLowSurrogate_iff] at h hpair
    omega
  have hpoints : codePoints (t ++ [u, v]) = codePoints t ++ [pairCodePoint u v] := by
    rw [codePoints_append hcut, codePoints, if_pos h, codePoints]
  rw [lastPointStart, hpoints, List.dropLast_concat, ofCodePoints_codePoints]

/-- The last code point before an offset is the unit there, or the pair that ends there. -/
theorem lastPointStart_take (ho : o < t.length) :
    lastPointStart (t.take (o + 1)) =
      if 0 < o ∧ t[o]?.any isLowSurrogate ∧ t[o - 1]?.any isHighSurrogate then o - 1 else o := by
  have htake : t.take (o + 1) = t.take o ++ [t[o]] := List.take_succ_eq_append_getElem ho
  have hlength : (t.take o).length = o := List.length_take_of_le (Nat.le_of_lt ho)
  rw [htake, List.getElem?_eq_getElem ho, Option.any_some]
  rcases o with - | i
  · rw [if_neg fun h => Nat.lt_irrefl 0 h.1, List.take_zero, lastPointStart_concat cutApart_nil]
    rfl
  · have hi : i < t.length := Nat.lt_of_succ_lt ho
    have htake' : t.take (i + 1) = t.take i ++ [t[i]] := List.take_succ_eq_append_getElem hi
    rw [Nat.add_sub_cancel, List.getElem?_eq_getElem hi, Option.any_some]
    split
    · next hpair =>
      rw [htake', List.append_assoc, List.singleton_append,
        lastPointStart_pair (Bool.and_eq_true_iff.mpr hpair.2.symm),
        List.length_take_of_le (Nat.le_of_lt hi)]
    · next hpair =>
      have hcut : CutApart (t.take (i + 1)) [t[i + 1]] := by
        intro u hu v hv huv
        rw [htake', List.getLast?_concat] at hu
        obtain rfl : t[i] = u := Option.some.inj hu
        obtain rfl : t[i + 1] = v := Option.some.inj hv
        exact hpair ⟨Nat.succ_pos i, (Bool.and_eq_true_iff.mp huv).symm⟩
      rw [lastPointStart_concat hcut, hlength]

theorem unitAt?_natCast (t : Text) (o : Nat) : t.unitAt? (o : Number) = t[o]? := by
  show (if (o : Number) < 0 then none else t[(o : Rat).floor.toNat]?) = _
  rw [if_neg (Number.not_neg_natCast o), Number.toNat_floor_natCast]

/-- There is no unit from the end of a text on. -/
theorem unitAt?_of_length_le {x : Number} (h : (t.length : Number) ≤ x) : t.unitAt? x = none := by
  cases x with
  | nan => exact absurd h (Number.not_le_nan _)
  | negInf => exact absurd h Bool.false_ne_true
  | posInf => exact ite_self none
  | finite q =>
    have hq : ((t.length : Int) : Rat) ≤ q := Number.finite_le_finite.mp h
    have hfloor := Rat.le_floor_iff.mpr hq
    have hpast : t.length ≤ q.floor.toNat := by omega
    show (if Number.finite q < 0 then none else t[q.floor.toNat]?) = none
    rw [List.getElem?_eq_none hpast, ite_self]

end Text

/-- Two neighbouring offsets are on one line if no line feed is between them. -/
theorem Buffer.lineAt_eq_lineAt_succ_iff (b : Buffer) (i : Nat) :
    b.lineAt (i : Number) = b.lineAt ((i + 1 : Nat) : Number) ↔
      b.text[i]? ≠ some Text.lineFeed := by
  rw [lineAt_natCast, lineAt_natCast, List.take_add_one, List.count_append, Nat.left_eq_add,
    List.count_eq_zero, Option.mem_toList]

/-! ### The cursor -/

namespace Range

variable {t : Text} {anchor o : Nat}

/-- The cursor of a range drawn forward to just past a unit of the text. -/
theorem cursor_natCast (h : anchor ≤ o) (ho : o < t.length) :
    (Range.mk anchor (o + 1 : Nat)).cursor t =
      ((if 0 < o ∧ t[o]?.any Text.isLowSurrogate then o - 1 else o : Nat) : Number) := by
  have hforward : ¬ ((o + 1 : Nat) : Number) ≤ (anchor : Number) :=
    fun hle => Nat.not_succ_le_self o (Nat.le_trans (Number.natCast_le_natCast.1 hle) h)
  have hlast : ((o + 1 : Nat) : Number).moveBy t.length (-1) = (o : Number) :=
    Number.moveBy_neg_one o.succ_pos (Number.natCast_le_natCast.2 ho)
  have hpos : (0 : Number) < (o : Number) ↔ 0 < o := Number.natCast_lt_natCast
  simp only [cursor, if_neg hforward, hlast, Text.unitAt?_natCast, hpos]
  split
  · next hlow => exact Number.moveBy_neg_one hlow.1 (Number.natCast_le_natCast.2 (Nat.le_of_lt ho))
  · rfl

/-- The cursor of a range that reaches past the text stands before its head, as binary64 has it. -/
theorem cursor_of_length_lt {head : Nat} (ht : t.length ≤ Number.wholeLimit) (h : anchor < head)
    (hpast : t.length < head) : (Range.mk anchor head).cursor t = (head : Number) - 1 := by
  have hforward : ¬ (head : Number) ≤ (anchor : Number) :=
    fun hle => Nat.not_le_of_lt h (Number.natCast_le_natCast.1 hle)
  have hlast : (head : Number).moveBy t.length (-1) = (head : Number) - 1 :=
    Number.moveBy_eq_add (n := -1) (by decide) (by omega) _
  -- rounding keeps order, so there is no unit before the head either
  have hround : (head : Number) - 1 = Number.round ((head - 1 : Nat) : Rat) := by
    rw [Nat.cast_pred (Nat.zero_lt_of_lt h)]
    exact Number.finite_sub_finite _ _
  have hunit : t.unitAt? ((head : Number) - 1) = none := by
    apply Text.unitAt?_of_length_le
    rw [hround, ← Number.round_natCast ht]
    exact Number.round_mono (by exact_mod_cast Nat.le_sub_one_of_lt hpast)
  simp only [cursor, if_neg hforward, hlast, hunit]
  exact if_neg fun hlow => Bool.false_ne_true hlow.2

example : (Range.mk (0 : Nat) (Number.wholeLimit + 2 : Nat)).cursor [] = Number.wholeLimit := by
  decide +kernel

/-- **The cursor of a range drawn forward stands on the last selected character**, unless that is a
low surrogate that stands alone behind another unit.  It stands on the line of that character,
unless the other unit is a line feed.  The cursor of any other range is its head. -/
theorem cursor_eq_lastPointStart_iff (t : Text) {anchor head : Nat} (h : anchor < head)
    (hhead : head ≤ t.length) :
    ((Range.mk anchor head).cursor t = (Text.lastPointStart (t.take head) : Number) ↔
      ¬ (2 ≤ head ∧ t[head - 1]?.any Text.isLowSurrogate ∧
        ¬ t[head - 2]?.any Text.isHighSurrogate)) ∧
    (∀ b : Buffer, b.text = t →
      (b.lineAt ((Range.mk anchor head).cursor t) = b.lineAt ((head - 1 : Nat) : Number) ↔
        ¬ (2 ≤ head ∧ t[head - 1]?.any Text.isLowSurrogate ∧
          t[head - 2]? = some Text.lineFeed))) ∧
    ∀ r : Range, r.head ≤ r.anchor → r.cursor t = r.head := by
  obtain ⟨o, rfl⟩ : ∃ o, head = o + 1 := ⟨head - 1, by omega⟩
  rw [cursor_natCast (Nat.le_of_lt_succ h) hhead, Number.natCast_inj,
    Text.lastPointStart_take hhead, Nat.add_sub_cancel]
  refine ⟨?character, ?line, fun r hr => if_pos hr⟩
  case character =>
    rcases o with - | i
    · simp
    · rw [Nat.add_sub_cancel]
      by_cases hlow : t[i + 1]?.any Text.isLowSurrogate
      · by_cases hhigh : t[i]?.any Text.isHighSurrogate
        · simp [hlow, hhigh]
        · simp [hlow, hhigh]
      · simp [hlow]
  case line =>
    rintro b rfl
    rcases o with - | i
    · simp
    · rw [Nat.add_sub_cancel]
      by_cases hlow : b.text[i + 1]?.any Text.isLowSurrogate
      · simp [hlow, b.lineAt_eq_lineAt_succ_iff]
      · simp [hlow]

/-- A range that ends behind a surrogate pair: its cursor stands at the start of the pair. -/
theorem cursor_eq_lastPointStart_iff_paired :
    let t := Text.ofString "a\n😀"
    let b := Buffer.ofText t
    0 < 4 ∧ 4 ≤ t.length ∧ b.text = t ∧ (2 : Number) ≤ 3 ∧
      (Range.mk (0 : Nat) (4 : Nat)).cursor t = (Text.lastPointStart (t.take 4) : Number) ∧
      b.lineAt ((Range.mk (0 : Nat) (4 : Nat)).cursor t) = b.lineAt ((4 - 1 : Nat) : Number) ∧
      (Range.mk 3 2).cursor t = 2 := by
  intro t b
  have hlength : 4 ≤ t.length := by decide +kernel
  have htext : b.text = t := by decide +kernel
  have hback : (2 : Number) ≤ 3 := by decide +kernel
  obtain ⟨hcharacter, hline, hhead⟩ := cursor_eq_lastPointStart_iff t (by decide : 0 < 4) hlength
  exact ⟨by decide, hlength, htext, hback, hcharacter.mpr (by decide +kernel),
    (hline b htext).mpr (by decide +kernel), hhead ⟨3, 2⟩ hback⟩

/-- The second line of a text is a low surrogate that stands alone.  The cursor of the range that
selects it stands before it, on the first line. -/
theorem not_cursor_eq_lastPointStart_stray :
    let t : Text := [Text.lineFeed, 0xDC00]
    let b := Buffer.ofText t
    1 < 2 ∧ 2 ≤ t.length ∧ b.text = t ∧
      (Range.mk (1 : Nat) (2 : Nat)).cursor t = 0 ∧ Text.lastPointStart (t.take 2) = 1 ∧
      b.lineAt ((Range.mk (1 : Nat) (2 : Nat)).cursor t) = 0 ∧
      b.lineAt ((2 - 1 : Nat) : Number) = 1 := by
  decide +kernel

end Range

end EditorGutter
