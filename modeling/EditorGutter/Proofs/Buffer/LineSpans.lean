import EditorGutter.Proofs.Buffer.LineStarts

/-!
The spans of the lines of a buffer.

A line reaches from its start to the line feed that ends it, just past which the next line starts
(`lineLength_next`); the last line reaches to the end of the text (`lineLength_last`).  Hence the
spans lie in the text (`lineSpan_le`) one behind the other (`lineSpan_lt`).

The line of an offset is looked up by halving the table of line starts, which tells the starts that
are not past the offset from those that are (`LineIndex.search_spec`).  So an offset in a span is
held by the line whose span it is (`lineAt_eq`).
-/
namespace EditorGutter

/-! ### Pieces of a text -/

theorem Text.between_natCast (t : Text) {i j : Nat} (hij : i ≤ j) (hj : j ≤ t.length) :
    t.between (i : Number) (some (j : Number)) = (t.drop i).take (j - i) := by
  simp only [between, Number.toPosition_natCast]
  rw [Nat.min_eq_right hj, Nat.min_eq_right (Nat.le_trans hij hj), Nat.max_eq_right hij,
    Nat.min_eq_left hij, List.drop_take]

/-! ### Looking an offset up -/

namespace LineIndex

variable {x : LineIndex}

theorem start_le_start (hx : x.starts.Pairwise (· < ·)) {i j s s' : Nat} (hij : i ≤ j)
    (hs : x.starts[i]? = some s) (hs' : x.starts[j]? = some s') : s ≤ s' := by
  obtain ⟨hi, rfl⟩ := List.getElem?_eq_some_iff.mp hs
  obtain ⟨hj, rfl⟩ := List.getElem?_eq_some_iff.mp hs'
  rcases Nat.lt_or_eq_of_le hij with hlt | rfl
  · exact Nat.le_of_lt (List.pairwise_iff_getElem.mp hx i j hi hj hlt)
  · exact Nat.le_refl _

/-- Of the entries after `low`, those up to the one that is found are not past the offset, and
those after it are. -/
theorem search_spec (hx : x.starts.Pairwise (· < ·)) (o : Nat) {low high : Nat} (hle : low ≤ high)
    (hhigh : high < x.starts.length) :
    low ≤ x.search (o : Number) low high ∧
      ∀ i s, low < i → i ≤ high → x.starts[i]? = some s →
        (s ≤ o ↔ i ≤ x.search (o : Number) low high) := by
  fun_induction x.search (o : Number) low high with
  | case1 low high hlt middle hmiddle ih =>
    obtain ⟨hlow, hsplit⟩ := ih (by omega) hhigh
    obtain ⟨m, hm, hmo⟩ := (Option.any_eq_true _ _).mp hmiddle
    rw [decide_eq_true_iff, Number.natCast_le_natCast] at hmo
    refine ⟨by omega, ?_⟩
    intro i s hi hih hs
    rcases Nat.lt_or_ge middle i with hafter | hupto
    · exact hsplit i s hafter hih hs
    · -- entries up to the midpoint are not above it
      have := start_le_start hx hupto hs hm
      omega
  | case2 low high hlt middle hmiddle ih =>
    obtain ⟨hlow, hsplit⟩ := ih (by omega) (by omega)
    refine ⟨hlow, ?_⟩
    intro i s hi hih hs
    rcases Nat.lt_or_ge i middle with hbefore | hfrom
    · exact hsplit i s hi (by omega) hs
    · -- entries from the midpoint on are not below it
      have hm := List.getElem?_eq_getElem (show middle < x.starts.length by omega)
      rw [hm, Option.any_some, decide_eq_true_iff, Number.natCast_le_natCast] at hmiddle
      have hms := start_le_start hx hfrom hm hs
      have hfound := x.search_le (o : Number) (show low ≤ middle - 1 by omega)
      omega
  | case3 low high hge =>
    refine ⟨Nat.le_refl _, ?_⟩
    intro i s hi hih
    omega

/-- An ascending table holds an offset at the entry that is not past it and whose successor is. -/
theorem lineAt_eq (hx : x.starts.Pairwise (· < ·)) {l s o : Nat}
    (hs : x.starts[l]? = some s) (hle : s ≤ o) (hnext : ∀ s' ∈ x.starts[l + 1]?, o < s') :
    x.lineAt (o : Number) = l := by
  obtain ⟨hl, hls⟩ := List.getElem?_eq_some_iff.mp hs
  have hcount := x.count_pos
  have hlast : l ≤ x.count - 1 := Nat.le_sub_one_of_lt hl
  unfold lineAt
  split
  · next hzero =>
    -- an entry after the first is above zero
    have hzero : o ≤ 0 := Number.natCast_le_natCast.mp hzero
    rcases Nat.eq_zero_or_pos l with rfl | hpos
    · rfl
    · have := List.pairwise_iff_getElem.mp hx 0 l hcount hl hpos
      omega
  · obtain ⟨-, hsplit⟩ := search_spec hx o (Nat.zero_le (x.count - 1)) (Nat.sub_one_lt_of_lt hcount)
    have hfound := x.search_le (o : Number) (Nat.zero_le (x.count - 1))
    apply Nat.le_antisymm
    · -- a successor that is past the offset is not found
      apply Nat.le_of_not_lt
      intro hlt
      have hl' : l + 1 < x.count := by omega
      have hs' : x.starts[l + 1]? = some _ := List.getElem?_eq_getElem hl'
      have hpast := hnext _ hs'
      have := (hsplit (l + 1) _ (Nat.succ_pos l) (by omega) hs').mpr hlt
      omega
    · rcases Nat.eq_zero_or_pos l with rfl | hpos
      · exact Nat.zero_le _
      · exact (hsplit l s hpos hlast hs).mp hle

end LineIndex

namespace Buffer

variable {b : Buffer} {l m s s' o : Nat}

/-! ### Lengths of lines -/

theorem lineStop_next (h : l + 1 < b.lineCount)
    (hs : b.lineOffset? ((l + 1 : Nat) : Number) = some s) :
    b.lineStop (l : Number) = ((s - 1 : Nat) : Number) := by
  have hplace : (l : Number) ≤ (b.lineCount : Number) :=
    Number.natCast_le_natCast.2 (Nat.le_of_lt (Nat.lt_of_succ_lt h))
  rw [lineStop, Number.moveBy_one hplace, if_pos (Number.natCast_lt_natCast.2 h), hs]

theorem lineStop_last (h : l + 1 = b.lineCount) :
    b.lineStop (l : Number) = (b.length : Number) := by
  have hplace : (l : Number) ≤ (b.lineCount : Number) :=
    Number.natCast_le_natCast.2 (Nat.le_of_succ_le (Nat.le_of_eq h))
  have hlast : ¬ (b.lineCount : Number) < (b.lineCount : Number) :=
    fun hlt => Nat.lt_irrefl _ (Number.natCast_lt_natCast.1 hlt)
  rw [lineStop, Number.moveBy_one hplace, h, if_neg hlast]

/-- A line is the piece of the text from its start to its end. -/
theorem line_eq {e : Nat} (h : l < b.lineCount) (hs : b.lineOffset? (l : Number) = some s)
    (hstop : b.lineStop (l : Number) = (e : Number)) (hse : s ≤ e) (he : e ≤ b.length) :
    b.line (l : Number) = (b.text.drop s).take (e - s) := by
  have hpast : ¬ (b.lineCount : Number) ≤ (l : Number) :=
    fun hl => Nat.not_le.2 h (Number.natCast_le_natCast.1 hl)
  rw [line, if_neg (not_or.mpr ⟨Number.not_neg_natCast l, hpast⟩), hs, hstop]
  exact Text.between_natCast b.text hse he

theorem lineLength_eq {e : Nat} (h : l < b.lineCount) (hs : b.lineOffset? (l : Number) = some s)
    (hstop : b.lineStop (l : Number) = (e : Number)) (hse : s ≤ e) (he : e ≤ b.length) :
    b.lineLength (l : Number) = e - s := by
  have hlength : b.text.length = b.length := rfl
  rw [lineLength, line_eq h hs hstop hse he, List.length_take, List.length_drop, hlength]
  omega

/-- A line and its line feed end where the next line starts. -/
theorem lineLength_next (h : l + 1 < b.lineCount) (hs : b.lineOffset? (l : Number) = some s)
    (hs' : b.lineOffset? ((l + 1 : Nat) : Number) = some s') :
    s + b.lineLength (l : Number) + 1 = s' := by
  have hlt : s < s' := lineOffset?_lt (Nat.lt_succ_self l) h hs hs'
  have hle : s' ≤ b.length := lineOffset?_le h hs'
  rw [lineLength_eq (Nat.lt_of_succ_lt h) hs (lineStop_next h hs') (by omega) (by omega)]
  omega

/-- The last line ends with the text. -/
theorem lineLength_last (h : l + 1 = b.lineCount) (hs : b.lineOffset? (l : Number) = some s) :
    s + b.lineLength (l : Number) = b.length := by
  have hl : l < b.lineCount := Nat.lt_of_succ_le (Nat.le_of_eq h)
  have hle : s ≤ b.length := lineOffset?_le hl hs
  rw [lineLength_eq hl hs (lineStop_last h) hle (Nat.le_refl _)]
  omega

/-! ### Spans -/

/-- Every line ends before any later line starts. -/
theorem lineSpan_lt (hlm : l < m) (hm : m < b.lineCount) (hs : b.lineOffset? (l : Number) = some s)
    (hs' : b.lineOffset? (m : Number) = some s') : s + b.lineLength (l : Number) < s' := by
  have hnext : l + 1 < b.lineCount := by omega
  obtain ⟨t, ht⟩ := exists_lineOffset? hnext
  have hlt : t ≤ s' := by
    rcases Nat.lt_or_ge (l + 1) m with hlt | hge
    · exact Nat.le_of_lt (lineOffset?_lt hlt hm ht hs')
    · obtain rfl : l + 1 = m := by omega
      exact Nat.le_of_eq (Option.some.inj (ht.symm.trans hs'))
  have := lineLength_next hnext hs ht
  omega

/-- Every line ends in the text. -/
theorem lineSpan_le (h : l < b.lineCount) (hs : b.lineOffset? (l : Number) = some s) :
    s + b.lineLength (l : Number) ≤ b.length := by
  rcases Nat.lt_or_ge (l + 1) b.lineCount with hnext | hlast
  · obtain ⟨t, ht⟩ := exists_lineOffset? hnext
    have hlt := lineSpan_lt (Nat.lt_succ_self l) hnext hs ht
    exact Nat.le_trans (Nat.le_of_lt hlt) (lineOffset?_le hnext ht)
  · exact Nat.le_of_eq (lineLength_last (by omega) hs)

/-- **An offset between the start and the end of a line is held by that line.** -/
theorem lineAt_eq (h : l < b.lineCount) (hs : b.lineOffset? (l : Number) = some s) (hso : s ≤ o)
    (hos : o ≤ s + b.lineLength (l : Number)) : b.lineAt (o : Number) = l := by
  refine LineIndex.lineAt_eq (LineIndex.pairwise_starts b.text)
    ((lineOffset?_natCast h).symm.trans hs) hso ?_
  intro t ht
  -- a next entry is the start of a next line
  obtain ⟨hnext, -⟩ := List.getElem?_eq_some_iff.mp (Option.mem_def.mp ht)
  have hnext : l + 1 < b.lineCount := hnext
  have hlt := lineSpan_lt (Nat.lt_succ_self l) hnext hs ((lineOffset?_natCast hnext).trans ht)
  exact Nat.lt_of_le_of_lt hos hlt

end Buffer

end EditorGutter
