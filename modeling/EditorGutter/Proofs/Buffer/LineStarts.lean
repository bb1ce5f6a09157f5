import EditorGutter.Buffer
import EditorGutter.Proofs.Text.CodePoints

/-!
Where the lines of a buffer start, in units and in bytes.

A line starts at zero or just past a line feed (`mem_breakEnds`), and later lines start later
(`lineOffset?_lt`).  A text cut at such a place is cut between two code points, so sizes in UTF-8
add up over the cut (`utf8Size_append`).  Hence a line starts before the last byte exactly if it
starts before the last unit, and the only line that does not is the empty line that a trailing
line feed opens (`lineByteOffset_lt_byteLength_iff`).
-/
namespace EditorGutter

namespace Text

/-! ### Sizes over a cut -/

/-- No code point of a text reaches over a cut after `t`. -/
def EndsWhole (t : Text) : Prop := ∀ u ∈ t.getLast?, isHighSurrogate u = false

theorem EndsWhole.cutApart {t : Text} (h : EndsWhole t) (t' : Text) : CutApart t t' := by
  intro u hu v _
  rw [h u hu, Bool.false_and]
  exact Bool.false_ne_true

theorem utf8Size_append {t t' : Text} (h : CutApart t t') :
    utf8Size (t ++ t') = utf8Size t + utf8Size t' := by
  rw [utf8Size, codePoints_append h, total_append]
  rfl

theorem codePointSize_pos (c : CodePoint) : 0 < codePointSize c := by
  unfold codePointSize
  repeat' split
  all_goals decide

theorem utf8Size_pos {t : Text} (h : t ≠ []) : 0 < utf8Size t := by
  have hpoints : codePoints t ≠ [] := by
    intro hnil
    apply h
    rw [← ofCodePoints_codePoints t, hnil]
    rfl
  obtain ⟨c, rest, hc⟩ := List.exists_cons_of_ne_nil hpoints
  have := codePointSize_pos c
  rw [utf8Size, hc, total_cons]
  omega

/-! ### Line starts -/

theorem breakEnds_cons (start : Nat) (u : UInt16) (rest : Text) :
    breakEnds start (u :: rest) =
      if u = lineFeed then (start + 1) :: breakEnds (start + 1) rest
      else breakEnds (start + 1) rest := rfl

/-- The starts of later lines are the places just past the line feeds. -/
theorem mem_breakEnds {start s : Nat} {t : Text} :
    s ∈ breakEnds start t ↔ ∃ i, t[i]? = some lineFeed ∧ s = start + i + 1 := by
  induction t generalizing start with
  | nil => simp [breakEnds]
  | cons u rest ih =>
    have hrest : (∃ i, rest[i]? = some lineFeed ∧ s = start + 1 + i + 1) ↔
        ∃ i, (u :: rest)[i + 1]? = some lineFeed ∧ s = start + (i + 1) + 1 := by
      simp only [List.getElem?_cons_succ]
      constructor <;> rintro ⟨i, hi, rfl⟩ <;> exact ⟨i, hi, by omega⟩
    have hsplit : (∃ i, (u :: rest)[i]? = some lineFeed ∧ s = start + i + 1) ↔
        (u = lineFeed ∧ s = start + 1) ∨
          ∃ i, (u :: rest)[i + 1]? = some lineFeed ∧ s = start + (i + 1) + 1 := by
      constructor
      · rintro ⟨_ | i, hi, hs⟩
        · exact .inl ⟨by simpa using hi, hs⟩
        · exact .inr ⟨i, hi, hs⟩
      · rintro (⟨hu, hs⟩ | ⟨i, hi, hs⟩)
        · exact ⟨0, by simpa using hu, hs⟩
        · exact ⟨i + 1, hi, hs⟩
    rw [hsplit, ← hrest, ← ih]
    rcases Decidable.em (u = lineFeed) with hu | hu
    · rw [breakEnds_cons, if_pos hu, List.mem_cons]
      simp [hu]
    · rw [breakEnds_cons, if_neg hu]
      simp [hu]

theorem lt_of_mem_breakEnds {start s : Nat} {t : Text} (h : s ∈ breakEnds start t) :
    start < s ∧ s ≤ start + t.length := by
  obtain ⟨i, hi, rfl⟩ := mem_breakEnds.mp h
  obtain ⟨hlt, -⟩ := List.getElem?_eq_some_iff.mp hi
  omega

theorem pairwise_breakEnds (start : Nat) (t : Text) : (breakEnds start t).Pairwise (· < ·) := by
  induction t generalizing start with
  | nil => exact List.Pairwise.nil
  | cons u rest ih =>
    rw [breakEnds_cons]
    split
    · exact List.pairwise_cons.mpr ⟨fun s hs => (lt_of_mem_breakEnds hs).1, ih (start + 1)⟩
    · exact ih (start + 1)

end Text

namespace LineIndex

theorem pairwise_starts (t : Text) : (ofText t).starts.Pairwise (· < ·) :=
  List.pairwise_cons.mpr
    ⟨fun _ hs => (Text.lt_of_mem_breakEnds hs).1, Text.pairwise_breakEnds 0 t⟩

/-- Asked for a line that it has, the index answers with the start in its table. -/
theorem start?_natCast {x : LineIndex} {l : Nat} (h : l < x.count) :
    x.start? (l : Number) = x.starts[l]? := by
  have hpast : ¬ (x.count : Number) ≤ (l : Number) :=
    fun hl => Nat.not_le.2 h (Number.natCast_le_natCast.1 hl)
  rw [start?, if_neg (Number.not_neg_natCast l), if_neg hpast, Number.toNat?_natCast]

end LineIndex

namespace Buffer

variable {b : Buffer} {l m s s' : Nat}

/-! ### Lines of a buffer -/

theorem lineOffset?_natCast (h : l < b.lineCount) :
    b.lineOffset? (l : Number) = (0 :: Text.breakEnds 0 b.text)[l]? :=
  LineIndex.start?_natCast h

/-- Every line that a buffer has starts somewhere in the text. -/
theorem exists_lineOffset? (h : l < b.lineCount) : ∃ s, b.lineOffset? (l : Number) = some s := by
  have hlen : l < (0 :: Text.breakEnds 0 b.text).length := h
  exact ⟨_, (lineOffset?_natCast h).trans (List.getElem?_eq_getElem hlen)⟩

/-- A number among the lines of a buffer is one of them, or names no line. -/
theorem lineOffset?_cases {n : Number} (hneg : ¬ n < 0)
    (hpast : ¬ (b.lineCount : Number) ≤ n) :
    (∃ l < b.lineCount, n = (l : Number)) ∨ b.lineOffset? n = none := by
  rcases hn : n.toNat? with - | l
  · right
    have hpast' : ¬ (b.index.count : Number) ≤ n := hpast
    rw [lineOffset?, LineIndex.start?, if_neg hneg, if_neg hpast', hn]
  · obtain rfl := Number.toNat?_eq_some_iff.mp hn
    exact .inl ⟨l, Nat.lt_of_not_le fun hle => hpast (Number.natCast_le_natCast.mpr hle), rfl⟩

/-- A line starts at zero or just past a line feed. -/
theorem eq_zero_or_lineFeed (h : l < b.lineCount) (hs : b.lineOffset? (l : Number) = some s) :
    s = 0 ∨ ∃ i, s = i + 1 ∧ b.text[i]? = some Text.lineFeed := by
  rw [lineOffset?_natCast h] at hs
  rcases List.mem_cons.mp (List.mem_of_getElem? hs) with rfl | hmem
  · exact .inl rfl
  · obtain ⟨i, hi, rfl⟩ := Text.mem_breakEnds.mp hmem
    exact .inr ⟨i, by omega, hi⟩

theorem lineOffset?_le (h : l < b.lineCount) (hs : b.lineOffset? (l : Number) = some s) :
    s ≤ b.length := by
  rcases eq_zero_or_lineFeed h hs with rfl | ⟨i, rfl, hi⟩
  · exact Nat.zero_le _
  · obtain ⟨hlt, -⟩ := List.getElem?_eq_some_iff.mp hi
    exact hlt

/-- Later lines start later. -/
theorem lineOffset?_lt (hlm : l < m) (hm : m < b.lineCount)
    (hs : b.lineOffset? (l : Number) = some s) (hs' : b.lineOffset? (m : Number) = some s') :
    s < s' := by
  rw [lineOffset?_natCast (Nat.lt_trans hlm hm)] at hs
  rw [lineOffset?_natCast hm] at hs'
  obtain ⟨hl', rfl⟩ := List.getElem?_eq_some_iff.mp hs
  obtain ⟨hm', rfl⟩ := List.getElem?_eq_some_iff.mp hs'
  exact List.pairwise_iff_getElem.mp (LineIndex.pairwise_starts b.text) l m hl' hm' hlm

/-! ### Bytes before a line -/

theorem endsWhole_take (h : l < b.lineCount) (hs : b.lineOffset? (l : Number) = some s) :
    Text.EndsWhole (b.text.take s) := by
  intro u hu
  rcases eq_zero_or_lineFeed h hs with rfl | ⟨i, rfl, hi⟩
  · simp at hu
  · obtain ⟨hlt, hi⟩ := List.getElem?_eq_some_iff.mp hi
    rw [List.take_succ_eq_append_getElem hlt, List.getLast?_concat, hi] at hu
    obtain rfl := Option.some.inj hu
    decide

/-- The bytes of a text are those before a line and those from its start on. -/
theorem byteLength_eq (h : l < b.lineCount) (hs : b.lineOffset? (l : Number) = some s) :
    b.byteLength = b.lineByteOffset (l : Number) + Text.utf8Size (b.text.drop s) := by
  rw [lineByteOffset, hs, Option.getD_some,
    ← Text.utf8Size_append ((endsWhole_take h hs).cutApart _),
    List.take_append_drop]
  rfl

/-- The empty line that a trailing line feed opens, or the only line of an empty buffer. -/
def IsEmptyLast (b : Buffer) (l : Nat) : Prop :=
  l + 1 = b.lineCount ∧ b.lineOffset? (l : Number) = some b.length

instance (b : Buffer) (l : Nat) : Decidable (b.IsEmptyLast l) :=
  inferInstanceAs (Decidable (_ ∧ _))

/-- Every line of a buffer but an empty last one starts before the last byte. -/
theorem lineByteOffset_lt_byteLength_iff (h : l < b.lineCount) :
    b.lineByteOffset (l : Number) < b.byteLength ↔ ¬ b.IsEmptyLast l := by
  obtain ⟨s, hs⟩ := exists_lineOffset? h
  have hle := lineOffset?_le h hs
  have hsize := byteLength_eq h hs
  constructor
  · -- nothing comes after the start of an empty last line
    rintro hlt ⟨-, hlast⟩
    have : s = b.length := Option.some.inj (hs.symm.trans hlast)
    have hnil : b.text.drop s = [] := List.drop_eq_nil_of_le (Nat.le_of_eq this.symm)
    rw [hsize, hnil] at hlt
    exact Nat.lt_irrefl _ hlt
  · intro hnot
    have hlt : s < b.length := by
      rcases Nat.lt_or_ge (l + 1) b.lineCount with hnext | hlast
      · obtain ⟨s', hs'⟩ := exists_lineOffset? hnext
        have := lineOffset?_lt (Nat.lt_succ_self l) hnext hs hs'
        exact Nat.lt_of_lt_of_le this (lineOffset?_le hnext hs')
      · -- the last line starts at the end only if it is empty
        refine Nat.lt_of_le_of_ne hle fun heq => hnot ⟨by omega, ?_⟩
        rw [hs, heq]
    have hne : b.text.drop s ≠ [] := by
      intro hnil
      exact Nat.not_le.2 hlt (List.drop_eq_nil_iff.mp hnil)
    have := Text.utf8Size_pos hne
    omega

end Buffer

end EditorGutter
