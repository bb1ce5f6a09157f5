import EditorGutter.Proofs.Diagnostic.Placement

/-!
Which line holds an offset.

The line of an offset has as many lines before it as there are line feeds before the offset
(`lineAt_intCast`), so looking lines up by offsets and offsets up by lines fit together
(`lineOffset?_le_iff`).  An offset in the text lies in the span of its line, and its distance from
the start of that line is the character by which a server names it (`offset_lineAt`).  The main
result `lineAt_lookup` puts this together.
-/
namespace EditorGutter

/-! ### Line feeds before an offset -/

/-- Of the places just past the line feeds of a text, as many are not past an offset as there are
line feeds before it. -/
theorem Text.breakEnds_le_iff {start l s o : Nat} {t : Text}
    (hs : (breakEnds start t)[l]? = some s) : s ≤ start + o ↔ l < (t.take o).count lineFeed := by
  induction t generalizing start l o with
  | nil => cases hs
  | cons u rest ih =>
    rcases o with - | o
    · have := (lt_of_mem_breakEnds (List.mem_of_getElem? hs)).1
      rw [List.take_zero, List.count_nil]
      omega
    · rw [breakEnds_cons] at hs
      rw [List.take_succ_cons, List.count_cons]
      rcases Decidable.em (u = lineFeed) with rfl | hu
      · rw [if_pos rfl] at hs
        rw [beq_self_eq_true, if_pos rfl]
        rcases l with - | l
        · obtain rfl : start + 1 = s := Option.some.inj hs
          omega
        · have := ih (o := o) hs
          omega
      · rw [if_neg hu] at hs
        rw [beq_false_of_ne hu, if_neg Bool.false_ne_true]
        have := ih (o := o) hs
        omega

namespace Buffer

variable {b : Buffer} {l s o : Nat}

theorem lineOffset?_le_iff_count (h : l < b.lineCount)
    (hs : b.lineOffset? (l : Number) = some s) :
    s ≤ o ↔ l ≤ (b.text.take o).count Text.lineFeed := by
  rw [lineOffset?_natCast h] at hs
  rcases l with - | l
  · obtain rfl : 0 = s := Option.some.inj hs
    exact iff_of_true (Nat.zero_le o) (Nat.zero_le _)
  · have := Text.breakEnds_le_iff (o := o) hs
    omega

theorem count_take_lt_lineCount (b : Buffer) (o : Nat) :
    (b.text.take o).count Text.lineFeed < b.lineCount := by
  have hle := (List.take_sublist o b.text).count_le Text.lineFeed
  have hcount : b.lineCount = b.text.count Text.lineFeed + 1 := LineIndex.count_ofText b.text
  omega

/-- An offset is held by the line that has as many lines before it as there are line feeds before
the offset. -/
theorem lineAt_natCast (b : Buffer) (o : Nat) :
    b.lineAt (o : Number) = (b.text.take o).count Text.lineFeed := by
  have hlt := b.count_take_lt_lineCount o
  obtain ⟨s, hs⟩ := exists_lineOffset? hlt
  refine LineIndex.lineAt_eq (LineIndex.pairwise_starts b.text)
    ((lineOffset?_natCast hlt).symm.trans hs)
    ((lineOffset?_le_iff_count hlt hs).mpr (Nat.le_refl _)) ?_
  intro s' hs'
  -- a next entry is the start of a line with one more before it
  obtain ⟨hnext, -⟩ := List.getElem?_eq_some_iff.mp (Option.mem_def.mp hs')
  have hiff := lineOffset?_le_iff_count (o := o) hnext ((lineOffset?_natCast hnext).trans hs')
  omega

/-- A line starts at or before an offset exactly if it is not after the line of the offset. -/
theorem lineOffset?_le_iff (h : l < b.lineCount) (hs : b.lineOffset? (l : Number) = some s) :
    s ≤ o ↔ l ≤ b.lineAt (o : Number) := by
  rw [lineAt_natCast]
  exact lineOffset?_le_iff_count h hs

theorem lineAt_lineOffset? (h : l < b.lineCount) (hs : b.lineOffset? (l : Number) = some s) :
    b.lineAt (s : Number) = l :=
  lineAt_eq h hs (Nat.le_refl s) (Nat.le_add_right s _)

theorem lineAt_of_nonpos {offset : Number} (h : offset ≤ 0) : b.lineAt offset = 0 := if_pos h

theorem lineAt_intCast (b : Buffer) (i : Int) :
    b.lineAt (i : Number) = (b.text.take i.toNat).count Text.lineFeed := by
  rcases Int.le_total 0 i with hi | hi
  · obtain ⟨o, rfl⟩ := Int.eq_ofNat_of_zero_le hi
    rw [Number.intCast_natCast, lineAt_natCast, Int.toNat_natCast]
  · rw [lineAt_of_nonpos (Number.intCast_le_intCast.mpr hi), Int.toNat_of_nonpos hi, List.take_zero,
      List.count_nil]

theorem lineAt_of_length_le (h : b.length ≤ o) : b.lineAt (o : Number) = b.lineCount - 1 := by
  rw [lineAt_natCast, List.take_of_length_le h]
  exact Nat.eq_sub_of_add_eq (LineIndex.count_ofText b.text).symm

/-! ### Offsets as positions -/

/-- An offset in the text lies in the span of the line that holds it. -/
theorem lineSpan_lineAt (h : o ≤ b.length)
    (hs : b.lineOffset? (b.lineAt (o : Number) : Number) = some s) :
    s ≤ o ∧ o ≤ s + b.lineLength (b.lineAt (o : Number) : Number) := by
  have hlt := b.lineAt_lt_lineCount (o : Number)
  refine ⟨(lineOffset?_le_iff hlt hs).mpr (Nat.le_refl _), ?_⟩
  rcases Nat.lt_or_ge (b.lineAt (o : Number) + 1) b.lineCount with hnext | hlast
  · -- the next line starts past the offset
    obtain ⟨s', hs'⟩ := exists_lineOffset? hnext
    have hspan := lineLength_next hnext hs hs'
    have hiff := lineOffset?_le_iff (o := o) hnext hs'
    omega
  · have hspan := lineLength_last (by omega) hs
    omega

/-- The character at which an offset lies in its line names the offset to a server. -/
theorem offset_lineAt (h : o ≤ b.length)
    (hs : b.lineOffset? (b.lineAt (o : Number) : Number) = some s) :
    Position.offset ⟨(b.lineAt (o : Number) : Nat), (o - s : Nat)⟩ b = (o : Number) := by
  obtain ⟨hle, hspan⟩ := lineSpan_lineAt h hs
  have hheld := heldLine_of_lt (b.lineAt_lt_lineCount (o : Number))
  rw [Position.offset_eq (Number.intCast_natCast _).symm (Number.intCast_natCast _).symm
    (hheld.symm ▸ hs), hheld, Int.toNat_natCast, Nat.min_eq_right (by omega),
    Nat.add_sub_cancel' hle]

/-- **The line of a whole offset has as many lines before it as there are line feeds before the
offset**: the first line for an offset that is not above zero and the last one for an offset past
the text.  It is the line whose start comes back to it, and the last one that starts at or before
the offset.  An offset in the text is a place of its line, and as the position of that place it is
converted back to itself. -/
theorem lineAt_lookup (b : Buffer) :
    (∀ i : Int, b.lineAt (i : Number) = (b.text.take i.toNat).count Text.lineFeed ∧
      (i ≤ 0 → b.lineAt (i : Number) = 0) ∧
      ((b.length : Int) ≤ i → b.lineAt (i : Number) = b.lineCount - 1)) ∧
    (∀ l < b.lineCount, ∃ s : Nat, b.lineOffset? (l : Number) = some s ∧
      b.lineAt (s : Number) = l ∧ ∀ o : Nat, s ≤ o ↔ l ≤ b.lineAt (o : Number)) ∧
    ∀ o ≤ b.length, ∃ s c : Nat, b.lineOffset? (b.lineAt (o : Number) : Number) = some s ∧
      s + c = o ∧ c ≤ b.lineLength (b.lineAt (o : Number) : Number) ∧
      Position.offset ⟨(b.lineAt (o : Number) : Nat), c⟩ b = (o : Number) := by
  refine ⟨?offset, ?line, ?place⟩
  case offset =>
    intro i
    refine ⟨b.lineAt_intCast i, ?_, ?_⟩
    · intro hi
      exact lineAt_of_nonpos (Number.intCast_le_intCast.mpr hi)
    · intro hi
      obtain ⟨o, rfl⟩ := Int.eq_ofNat_of_zero_le (Int.le_trans (Int.natCast_nonneg _) hi)
      rw [Number.intCast_natCast]
      exact lineAt_of_length_le (Int.ofNat_le.mp hi)
  case line =>
    intro l hl
    obtain ⟨s, hs⟩ := exists_lineOffset? hl
    exact ⟨s, hs, lineAt_lineOffset? hl hs, fun o => lineOffset?_le_iff hl hs⟩
  case place =>
    intro o ho
    obtain ⟨s, hs⟩ := exists_lineOffset? (b.lineAt_lt_lineCount (o : Number))
    obtain ⟨hle, hspan⟩ := lineSpan_lineAt ho hs
    exact ⟨s, o - s, hs, Nat.add_sub_cancel' hle, by omega, offset_lineAt ho hs⟩

/-- A text with an empty line and a line feed at its end: the offset of the line feed that ends a
line belongs to that line, and the end of the text to the empty last line. -/
theorem lineAt_lookup_emptyLines :
    let b := Buffer.ofText (Text.ofString "ab\r\ncde\n\nf\n")
    b.length = 10 ∧ b.lineCount = 5 ∧
      b.lineAt ((6 : Int) : Number) = 1 ∧ b.lineAt ((-3 : Int) : Number) = 0 ∧
      b.lineAt ((40 : Int) : Number) = 4 ∧ b.lineAt (7 : Number) = 2 ∧
      Position.offset ⟨4, 0⟩ b = 10 := by
  intro b
  obtain ⟨hoffset, hline, hplace⟩ := lineAt_lookup b
  have hlength : b.length = 10 := by decide +kernel
  have hcount : b.lineCount = 5 := by decide +kernel
  have hfeed : b.lineAt ((6 : Int) : Number) = 1 := (hoffset 6).1.trans (by decide +kernel)
  have hbefore : b.lineAt ((-3 : Int) : Number) = 0 := (hoffset (-3)).2.1 (by decide)
  have hafter : b.lineAt ((40 : Int) : Number) = 4 := by
    rw [(hoffset 40).2.2 (by rw [hlength]; decide), hcount]
  have hstart : b.lineAt (7 : Number) = 2 := by
    obtain ⟨s, hs, hback, -⟩ := hline 2 (by rw [hcount]; decide)
    obtain rfl : s = 7 := Option.some.inj (hs.symm.trans (by decide +kernel))
    exact hback
  have hend : Position.offset ⟨4, 0⟩ b = 10 := by
    obtain ⟨s, c, hs, hsum, -, hback⟩ := hplace 10 (Nat.le_of_eq hlength.symm)
    have hlast : b.lineAt ((10 : Nat) : Number) = 4 := by decide +kernel
    rw [hlast] at hs hback
    obtain rfl : s = 10 := Option.some.inj (hs.symm.trans (by decide +kernel))
    obtain rfl : c = 0 := by omega
    exact hback
  exact ⟨hlength, hcount, hfeed, hbefore, hafter, hstart, hend⟩

end Buffer

end EditorGutter
