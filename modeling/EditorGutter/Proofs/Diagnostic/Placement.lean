import EditorGutter.Diagnostic
import EditorGutter.Proofs.Buffer.LineSpans
import EditorGutter.Proofs.Number.Clamping

/-!
Where positions and diagnostics are placed in a buffer.

A whole position is held in two steps: its line at a line of the buffer (`Buffer.heldLine`), and
its character at a place of that line (`Position.offset_eq`).  So it always lands in the text
(`Position.Whole.exists_offset`), and a position on a line of the buffer lands on that line
(`Position.Whole.lineAt_offset`).

The second step does not know about the first.  A position past the last line keeps the character
that was meant for another line, and may land before a position that it comes after.  The main
result `PublishedDiagnostic.place_ordered_iff` says exactly when this turns a range around.
-/
namespace EditorGutter

/-! ### Holding a line -/

/-- The line of a buffer at which a whole line is held. -/
def Buffer.heldLine (b : Buffer) (i : Int) : Nat := min (b.lineCount - 1) i.toNat

theorem Buffer.heldLine_lt (b : Buffer) (i : Int) : b.heldLine i < b.lineCount := by
  have := b.lineCount_pos
  unfold heldLine
  omega

theorem Buffer.heldLine_natCast (b : Buffer) (l : Nat) : b.heldLine l = min (b.lineCount - 1) l :=
  rfl

/-- A line that a buffer has is held at itself. -/
theorem Buffer.heldLine_of_lt {b : Buffer} {l : Nat} (h : l < b.lineCount) : b.heldLine l = l := by
  rw [heldLine_natCast]
  omega

/-! ### Positions -/

namespace Position

variable {p : Position} {b : Buffer}

/-- Both parts of a position are whole values. -/
def Whole (p : Position) : Prop :=
  (∃ i : Int, p.line = (i : Number)) ∧ ∃ j : Int, p.character = (j : Number)

theorem whole_natCast (l c : Nat) : Whole ⟨l, c⟩ :=
  ⟨⟨l, (Number.intCast_natCast l).symm⟩, c, (Number.intCast_natCast c).symm⟩

/-- A position is placed at its character in the line at which it is held, or at the end of it. -/
theorem offset_eq {i j : Int} {s : Nat} (hline : p.line = (i : Number))
    (hcharacter : p.character = (j : Number))
    (hs : b.lineOffset? (b.heldLine i : Number) = some s) :
    p.offset b =
      ((s + min (b.lineLength (b.heldLine i : Number)) j.toNat : Nat) : Number) := by
  have hheld : p.line.clampTo (b.lineCount - 1 : Nat) = (b.heldLine i : Number) := by
    rw [hline]
    exact Number.clampTo_intCast i _
  unfold offset
  simp only [hheld, hs, hcharacter, Number.clampTo_intCast]
  rw [Number.moveBy_natCast (Number.natCast_le_natCast.2 (Nat.min_le_left _ _)), Nat.add_comm]

/-- A whole position lands at an offset of the line at which it is held. -/
theorem Whole.exists_offset (hp : p.Whole) (b : Buffer) :
    ∃ o : Nat, p.offset b = (o : Number) ∧ o ≤ b.length := by
  obtain ⟨⟨i, hi⟩, j, hj⟩ := hp
  obtain ⟨s, hs⟩ := Buffer.exists_lineOffset? (b.heldLine_lt i)
  refine ⟨_, offset_eq hi hj hs, ?_⟩
  have := Buffer.lineSpan_le (b.heldLine_lt i) hs
  omega

/-- A position on a line of the buffer lands on that line, wherever its character is. -/
theorem Whole.lineAt_offset (hp : p.Whole) {l : Nat} (hl : p.line = (l : Number))
    (hlt : l < b.lineCount) : b.lineAt (p.offset b) = l := by
  obtain ⟨-, j, hj⟩ := hp
  have hl' : p.line = ((l : Int) : Number) := hl.trans (Number.intCast_natCast l).symm
  obtain ⟨s, hs⟩ := Buffer.exists_lineOffset? hlt
  have hheld := Buffer.heldLine_of_lt hlt
  rw [offset_eq hl' hj (hheld.symm ▸ hs), hheld]
  exact Buffer.lineAt_eq hlt hs (Nat.le_add_right _ _)
    (Nat.add_le_add_left (Nat.min_le_left _ _) _)

/-! ### Two positions -/

section

variable {q : Position} {i i' j j' : Int}

/-- Of positions that are held at two lines, the one on the earlier line lands first. -/
theorem offset_le_offset_of_lt (hi : p.line = (i : Number)) (hj : p.character = (j : Number))
    (hi' : q.line = (i' : Number)) (hj' : q.character = (j' : Number))
    (h : b.heldLine i < b.heldLine i') : p.offset b ≤ q.offset b := by
  obtain ⟨s, hs⟩ := Buffer.exists_lineOffset? (b.heldLine_lt i)
  obtain ⟨s', hs'⟩ := Buffer.exists_lineOffset? (b.heldLine_lt i')
  rw [offset_eq hi hj hs, offset_eq hi' hj' hs', Number.natCast_le_natCast]
  have hspan := Buffer.lineSpan_lt h (b.heldLine_lt i') hs hs'
  omega

/-- Of positions that are held at one line, their characters as held in that line decide. -/
theorem offset_le_offset_iff_of_eq (hi : p.line = (i : Number)) (hj : p.character = (j : Number))
    (hi' : q.line = (i' : Number)) (hj' : q.character = (j' : Number))
    (h : b.heldLine i = b.heldLine i') :
    p.offset b ≤ q.offset b ↔
      min (b.lineLength (b.heldLine i : Number)) j.toNat ≤
        min (b.lineLength (b.heldLine i : Number)) j'.toNat := by
  obtain ⟨s, hs⟩ := Buffer.exists_lineOffset? (b.heldLine_lt i)
  rw [offset_eq hi hj hs, offset_eq hi' hj' (h ▸ hs), Number.natCast_le_natCast, ← h]
  exact Nat.add_le_add_iff_left

end

/-- The second of two positions in order lands before the first exactly if both are held at the
last line, the second from past it, and the second has the smaller character there. -/
theorem offset_le_offset_iff (b : Buffer) {l c l' c' : Nat} (hle : l < l' ∨ l = l' ∧ c ≤ c') :
    offset ⟨l, c⟩ b ≤ offset ⟨l', c'⟩ b ↔
      ¬ (l < l' ∧ b.lineCount ≤ l + 1 ∧
        c' < min c (b.lineLength ((b.lineCount - 1 : Nat) : Number))) := by
  have hcast : ∀ n : Nat, (n : Number) = ((n : Int) : Number) :=
    fun n => (Number.intCast_natCast n).symm
  rcases Nat.lt_or_ge (b.heldLine l) (b.heldLine l') with hlt | hge
  · -- the first is on a line before the last one
    apply iff_of_true
    · exact offset_le_offset_of_lt (hcast l) (hcast c) (hcast l') (hcast c') hlt
    · rw [Buffer.heldLine_natCast, Buffer.heldLine_natCast] at hlt
      omega
  · rw [Buffer.heldLine_natCast, Buffer.heldLine_natCast] at hge
    have hheld : b.heldLine l = b.heldLine l' := by
      rw [Buffer.heldLine_natCast, Buffer.heldLine_natCast]
      omega
    rw [offset_le_offset_iff_of_eq (hcast l) (hcast c) (hcast l') (hcast c') hheld,
      Int.toNat_natCast, Int.toNat_natCast]
    rcases hle with hlt | ⟨rfl, hle⟩
    · -- both are held at the last line
      have hlast : b.heldLine l = b.lineCount - 1 := by
        rw [Buffer.heldLine_natCast]
        omega
      rw [hlast]
      omega
    · omega

end Position

/-! ### Diagnostics -/

namespace PublishedDiagnostic

/-- Both ends of a published diagnostic are whole positions. -/
def Whole (d : PublishedDiagnostic) : Prop := d.start.Whole ∧ d.stop.Whole

/-- The range of a whole diagnostic is placed in the text. -/
theorem Whole.exists_place {d : PublishedDiagnostic} (hd : d.Whole) (b : Buffer) :
    ∃ s e : Nat, (d.place b).start = (s : Number) ∧ (d.place b).stop = (e : Number) ∧
      s ≤ b.length ∧ e ≤ b.length := by
  obtain ⟨hstart, hstop⟩ := hd
  obtain ⟨s, hs, hsle⟩ := hstart.exists_offset b
  obtain ⟨e, he, hele⟩ := hstop.exists_offset b
  exact ⟨s, e, hs, he, hsle, hele⟩

/-- **A range in order is placed in the text, and in order unless it starts on the last line or
past it, ends on a later one, and has a smaller character there than the start has on the last
line.** -/
theorem place_ordered_iff (b : Buffer) (d : PublishedDiagnostic) {l c l' c' : Nat}
    (hstart : d.start = ⟨l, c⟩) (hstop : d.stop = ⟨l', c'⟩) (hle : l < l' ∨ l = l' ∧ c ≤ c') :
    (∃ s e : Nat, (d.place b).start = (s : Number) ∧ (d.place b).stop = (e : Number) ∧
      s ≤ b.length ∧ e ≤ b.length) ∧
    ((d.place b).start ≤ (d.place b).stop ↔
      ¬ (l < l' ∧ b.lineCount ≤ l + 1 ∧
        c' < min c (b.lineLength ((b.lineCount - 1 : Nat) : Number)))) := by
  constructor
  · have hwhole : d.Whole := by
      rw [Whole, hstart, hstop]
      exact ⟨Position.whole_natCast l c, Position.whole_natCast l' c'⟩
    exact hwhole.exists_place b
  · show d.start.offset b ≤ d.stop.offset b ↔ _
    rw [hstart, hstop]
    exact Position.offset_le_offset_iff b hle

/-- Two lines and a range that ends past them: its end is taken at the fourth character of the last
line, which is not before the start. -/
theorem place_ordered_iff_late :
    let b := Buffer.ofText (Text.ofString "ab\ncdef")
    let d : PublishedDiagnostic := ⟨⟨1, 1⟩, ⟨2, 3⟩, none, none, none, []⟩
    d.start = ⟨1, 1⟩ ∧ d.stop = ⟨2, 3⟩ ∧ b.lineCount = 2 ∧
      (d.place b).start ≤ (d.place b).stop ∧ (d.place b).stop = 6 := by
  intro b d
  obtain ⟨-, hiff⟩ := @place_ordered_iff b d 1 1 2 3 rfl rfl (.inl (by decide))
  exact ⟨rfl, rfl, by decide +kernel, hiff.mpr (by decide +kernel), by decide +kernel⟩

/-- A range from the end of the only line to the start of the next one, which there is not, ends at
the start of the text. -/
theorem not_place_ordered_past_last :
    let b := Buffer.ofText (Text.ofString "abc")
    let d : PublishedDiagnostic := ⟨⟨0, 3⟩, ⟨1, 0⟩, none, none, none, []⟩
    b.lineCount = 1 ∧ (d.place b).start = 3 ∧ (d.place b).stop = 0 ∧
      ¬ (d.place b).start ≤ (d.place b).stop := by
  decide +kernel

end PublishedDiagnostic

end EditorGutter
