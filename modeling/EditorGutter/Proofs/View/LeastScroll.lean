import EditorGutter.Proofs.View.Geometry
import Mathlib.Data.List.Sort

/-!
How far a view scrolls to show a line.

A view that is asked to show a line moves to the nearest offset from which the line is on screen
(`leastOffset`): the line itself if it is above the screen, the offset at which it comes last if it
is below, and nowhere otherwise.  No other offset that shows the line is nearer (`leastOffset_le`),
and a view that is asked again stays where it is (`AtLine.ensureLineVisible_again`).

The view computes in binary64, so it comes to that offset where nothing is rounded on the way
(`Exact`), as is the case for all numbers up to `Number.wholeLimit` (`exact_of_le`).  Past it the
line can be left below the screen (`not_shows_past_wholeLimit`).
-/
namespace EditorGutter

namespace View

variable {v : View} {h o p line : Nat}

/-! ### The lines on screen -/

/-- A view at a line shows the lines of the document from there on that its height allows. -/
theorem visibleLines_eq_filter (ho : v.AtLine o) (b : Buffer) :
    v.visibleLines b =
      ((List.range b.lineCount).filter fun l => o ≤ l ∧ l < o + v.height).map
        fun l : Nat => (l : Number) := by
  rw [visibleLines_eq ho]
  congr 1
  have hfilter := (List.pairwise_lt_range (n := b.lineCount)).filter
    fun l => o ≤ l ∧ l < o + v.height
  refine List.Pairwise.eq_of_mem_iff List.pairwise_lt_range' hfilter ?_
  intro l
  rw [List.mem_range'_1, List.mem_filter, List.mem_range, decide_eq_true_iff]
  omega

/-! ### The nearest offset -/

/-- A screen of height `h` that begins at `o` shows a line. -/
def Shows (h o line : Nat) : Prop := o ≤ line ∧ line < o + h

/-- The offset nearest to `o` from which a screen of height `h` shows a line. -/
def leastOffset (h o line : Nat) : Nat :=
  if line < o then line else if o + h ≤ line then line - h + 1 else o

theorem shows_leastOffset (h_pos : 0 < h) (o line : Nat) :
    Shows h (leastOffset h o line) line := by
  unfold Shows leastOffset
  split_ifs <;> omega

/-- **Every offset that shows the line is as far away as the nearest one, or farther.** -/
theorem leastOffset_le (hp : Shows h p line) (o : Nat) :
    ((leastOffset h o line : Int) - o).natAbs ≤ ((p : Int) - o).natAbs := by
  obtain ⟨hle, hlt⟩ := hp
  unfold leastOffset
  split_ifs <;> omega

/-! ### Scrolling without rounding -/

/-- Nothing that a view computes with its offset to show a line is rounded: neither the end of the
screen, now or with the line on top, nor what the height leaves of a line below it. -/
structure Exact (h o line : Nat) : Prop where
  stop : ((min o line + h : Nat) : Number).Representable
  rest : o + h ≤ line → ((line - h : Nat) : Number).Representable
  next : o + h ≤ line → ((line - h + 1 : Nat) : Number).Representable

theorem exact_of_le (hstop : min o line + h ≤ Number.wholeLimit)
    (hline : line < Number.wholeLimit + h) : Exact h o line where
  stop := Number.representable_natCast hstop
  rest _ := Number.representable_natCast (by omega)
  next _ := Number.representable_natCast (by omega)

theorem Exact.sub_add_one (hexact : Exact h o line) (hbelow : o + h ≤ line) :
    (line : Number) - (h : Number) + 1 = ((line - h + 1 : Nat) : Number) := by
  rw [Number.sub_natCast_of_representable (by omega) (hexact.rest hbelow)]
  exact Number.add_natCast_of_representable (hexact.next hbelow)

/-- A view moves to the nearest offset that shows the line. -/
theorem AtLine.ensureLineVisible (ho : v.AtLine o) (hexact : Exact v.height o line) :
    (v.ensureLineVisible (line : Number)).AtLine (leastOffset v.height o line) := by
  have habove : (line : Number) < v.offset ↔ line < o := by
    rw [ho]
    exact Number.natCast_lt_natCast
  unfold View.ensureLineVisible leastOffset
  by_cases hup : line < o
  · rw [if_pos (habove.mpr hup), if_pos hup]
    show Number.max 0 (line : Number) = (line : Number)
    rw [← Number.intCast_natCast, Number.max_zero_intCast, Int.toNat_natCast,
      Number.intCast_natCast]
  · rw [if_neg (habove.not.mpr hup), if_neg hup]
    have hstop := hexact.stop
    rw [Nat.min_eq_left (Nat.le_of_not_lt hup)] at hstop
    have hbelow : v.offset + v.height ≤ (line : Number) ↔ o + v.height ≤ line := by
      rw [ho, Number.add_natCast_of_representable hstop]
      exact Number.natCast_le_natCast
    by_cases hdown : o + v.height ≤ line
    · rw [if_pos (hbelow.mpr hdown), if_pos hdown]
      exact hexact.sub_add_one hdown
    · rw [if_neg (hbelow.not.mpr hdown), if_neg hdown]
      exact ho

/-- Asked again for the same line, a view stays where it is. -/
theorem AtLine.ensureLineVisible_again (ho : v.AtLine o) (hexact : Exact v.height o line) :
    (v.ensureLineVisible (line : Number)).ensureLineVisible (line : Number) =
      v.ensureLineVisible (line : Number) := by
  have hw := ho.ensureLineVisible hexact
  have hheight : (v.ensureLineVisible (line : Number)).height = v.height :=
    v.ensureLineVisible_height _
  obtain ⟨hle, hlt⟩ := shows_leastOffset v.height_pos o line
  generalize v.ensureLineVisible (line : Number) = w at hw hheight
  have habove : ¬ (line : Number) < w.offset := by
    rw [hw, Number.natCast_lt_natCast]
    exact Nat.not_lt.mpr hle
  rw [View.ensureLineVisible, if_neg habove]
  by_cases hdown : o + v.height ≤ line
  · -- computed anew, the offset comes out as it is
    have hoffset : w.offset = (line : Number) - (w.height : Number) + 1 := by
      rw [hheight, hexact.sub_add_one hdown, hw, leastOffset, if_neg (by omega), if_pos hdown]
    rw [← hoffset]
    exact ite_self w
  · -- the screen ends below the line
    have hmin : leastOffset v.height o line = min o line := by
      unfold leastOffset
      split_ifs <;> omega
    rw [hmin] at hw hlt
    rw [if_neg]
    rw [hw, hheight, Number.add_natCast_of_representable hexact.stop, Number.natCast_le_natCast]
    exact Nat.not_le.mpr hlt

/-- **A view that is asked to show a line scrolls as little as it can.**  It keeps its height, stays
at a line, and shows the lines of the document from there on.  Where nothing is rounded the line is
one of those that the screen has room for, no other offset of which this is true is nearer to the
old one, and to ask again changes nothing. -/
theorem ensureLineVisible_least (ho : v.AtLine o) (hheight : (v.height : Number).Representable)
    (hline : (line : Number).Representable) :
    let w := v.ensureLineVisible (line : Number)
    ∃ o' : Nat, w.AtLine o' ∧ w.height = v.height ∧ w.id = v.id ∧
      (∀ b : Buffer, w.visibleLines b =
        ((List.range b.lineCount).filter fun l => o' ≤ l ∧ l < o' + v.height).map
          fun l : Nat => (l : Number)) ∧
      (Exact v.height o line →
        Shows v.height o' line ∧
        (∀ p, Shows v.height p line →
          ((o' : Int) - o).natAbs ≤ ((p : Int) - o).natAbs) ∧
        w.ensureLineVisible (line : Number) = w ∧
        ∀ b : Buffer, line < b.lineCount → (line : Number) ∈ w.visibleLines b) := by
  intro w
  have hkept : w.height = v.height := v.ensureLineVisible_height _
  obtain ⟨o', ho'⟩ : ∃ o', w.AtLine o' := by
    have hv : v.InLines := ⟨⟨o, ho⟩, hheight⟩
    have := hv.ensureLineVisible (i := line) (by rwa [Number.intCast_natCast])
    rwa [Number.intCast_natCast] at this
  refine ⟨o', ho', hkept, v.ensureLineVisible_id _, ?lines, ?exact⟩
  case lines =>
    intro b
    rw [visibleLines_eq_filter ho', hkept]
  case exact =>
    intro hexact
    obtain rfl : o' = leastOffset v.height o line :=
      Number.natCast_inj.mp (ho'.symm.trans (ho.ensureLineVisible hexact))
    have hshows := shows_leastOffset v.height_pos o line
    refine ⟨hshows, fun p hp => leastOffset_le hp o, ho.ensureLineVisible_again hexact, ?_⟩
    intro b hb
    exact (mem_visibleLines ho').mpr ⟨line, rfl, hshows.1, hkept ▸ hshows.2, hb⟩

/-- A view of three rows from the third line on is asked for the last of nine lines. -/
theorem ensureLineVisible_least_last :
    let b := Buffer.ofText (List.replicate 8 Text.lineFeed)
    let v : View := ⟨1, 2, 3, by decide⟩
    let w := v.ensureLineVisible (8 : Nat)
    v.AtLine 2 ∧ (v.height : Number).Representable ∧ ((8 : Nat) : Number).Representable ∧
      Exact v.height 2 8 ∧ w.AtLine 6 ∧ (∀ p, Shows v.height p 8 → 4 ≤ ((p : Int) - 2).natAbs) ∧
      w.visibleLines b = [6, 7, 8] := by
  intro b v w
  have ho : v.AtLine 2 := rfl
  have hheight : (v.height : Number).Representable := Number.representable_natCast (by decide)
  have hline : ((8 : Nat) : Number).Representable := Number.representable_natCast (by decide)
  have hexact : Exact v.height 2 8 := exact_of_le (by decide) (by decide)
  obtain ⟨o', ho', -, -, hlines, hleast⟩ := ensureLineVisible_least ho hheight hline
  obtain ⟨⟨hle, hlt⟩, hnear, -, -⟩ := hleast hexact
  -- the offset 6 shows the line, and every offset that shows it is past 5
  have hsix := hnear 6 ⟨by decide, by decide⟩
  have hv : v.height = 3 := rfl
  obtain rfl : o' = 6 := by omega
  refine ⟨ho, hheight, hline, hexact, ho', hnear, (hlines b).trans ?_⟩
  decide +kernel

/-- Past the whole values that binary64 tells apart, a line can stay off screen: a view of one row
that is asked for a line there stops two lines before it. -/
theorem not_shows_past_wholeLimit :
    ∃ v, create 1 0 1 = .ok v ∧ ((Number.wholeLimit + 2 : Nat) : Number).Representable ∧
      (v.ensureLineVisible ((Number.wholeLimit + 2 : Nat) : Number)).AtLine Number.wholeLimit ∧
      ¬ Shows v.height Number.wholeLimit (Number.wholeLimit + 2) := by
  refine ⟨⟨1, 0, 1, by decide⟩, rfl, ?_, ?_, ?_⟩
  · exact (by decide +kernel : Number.round ((Number.wholeLimit + 2 : Nat) : Rat) =
      .finite ((Number.wholeLimit + 2 : Nat) : Rat))
  · unfold AtLine
    decide +kernel
  · unfold Shows
    decide

end View

end EditorGutter
