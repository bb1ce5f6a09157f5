import EditorGutter.Proofs.Buffer.OffsetLines

/-!
The lines of a buffer partition its text.

From the start of a line on, a text is the line, the line feed that ends it, and the text from the
start of the next line on (`drop_lineOffset_next`); from the start of the last line on it is that
line (`drop_lineOffset_last`).  So the lines from any one on, joined with line feeds, are the text
from its start on (`joinWith_linesFrom`), and from the first line on they are the whole text.  A
line holds no line feed, since its end has as many lines before it as its start
(`lineFeed_notMem_line`).

The main result is `lines_partition`.
-/
namespace EditorGutter

namespace Buffer

variable {b : Buffer} {l s s' : Nat}

/-! ### Lines as pieces of the text -/

theorem line_eq_take (h : l < b.lineCount) (hs : b.lineOffset? (l : Number) = some s) :
    b.line (l : Number) = (b.text.drop s).take (b.lineLength (l : Number)) := by
  rcases Nat.lt_or_ge (l + 1) b.lineCount with hnext | hlast
  · obtain ⟨s', hs'⟩ := exists_lineOffset? hnext
    have hlt := lineOffset?_lt (Nat.lt_succ_self l) hnext hs hs'
    have hle := lineOffset?_le hnext hs'
    have hstop := lineStop_next hnext hs'
    rw [lineLength_eq h hs hstop (by omega) (by omega), line_eq h hs hstop (by omega) (by omega)]
  · have hstop : b.lineStop (l : Number) = (b.length : Number) := lineStop_last (by omega)
    have hle := lineOffset?_le h hs
    rw [lineLength_eq h hs hstop hle (Nat.le_refl _), line_eq h hs hstop hle (Nat.le_refl _)]

/-- From the start of a line on there is the line, its line feed, and what is from the start of the
next line on. -/
theorem drop_lineOffset_next (h : l + 1 < b.lineCount) (hs : b.lineOffset? (l : Number) = some s)
    (hs' : b.lineOffset? ((l + 1 : Nat) : Number) = some s') :
    b.text.drop s = b.line (l : Number) ++ Text.lineFeed :: b.text.drop s' := by
  have hspan := lineLength_next h hs hs'
  have hfeed : b.text[s + b.lineLength (l : Number)]? = some Text.lineFeed := by
    rcases eq_zero_or_lineFeed h hs' with rfl | ⟨i, rfl, hi⟩
    · cases hspan
    · rwa [Nat.succ.inj hspan]
  obtain ⟨hlt, hget⟩ := List.getElem?_eq_some_iff.mp hfeed
  calc b.text.drop s
      = (b.text.drop s).take (b.lineLength (l : Number))
          ++ (b.text.drop s).drop (b.lineLength (l : Number)) := (List.take_append_drop _ _).symm
    _ = b.line (l : Number) ++ b.text.drop (s + b.lineLength (l : Number)) := by
        rw [← line_eq_take (Nat.lt_of_succ_lt h) hs, List.drop_drop]
    _ = b.line (l : Number) ++ Text.lineFeed :: b.text.drop s' := by
        rw [List.drop_eq_getElem_cons hlt, hget, hspan]

/-- From the start of the last line on there is only the line. -/
theorem drop_lineOffset_last (h : l + 1 = b.lineCount) (hs : b.lineOffset? (l : Number) = some s) :
    b.text.drop s = b.line (l : Number) := by
  have hlength : b.text.length = b.length := rfl
  have hspan := lineLength_last h hs
  have hl : l < b.lineCount := Nat.lt_of_succ_le (Nat.le_of_eq h)
  rw [line_eq_take hl hs, List.take_of_length_le]
  rw [List.length_drop, hlength]
  omega

/-! ### Joining the lines -/

/-- Some lines of the buffer, from one on. -/
def linesFrom (b : Buffer) (l n : Nat) : List Text :=
  (List.range' l n).map fun (k : Nat) => b.line (k : Number)

/-- The lines of the buffer, from the first to the last. -/
def lines (b : Buffer) : List Text := b.linesFrom 0 b.lineCount

theorem linesFrom_succ (b : Buffer) (l n : Nat) :
    b.linesFrom l (n + 1) = b.line (l : Number) :: b.linesFrom (l + 1) n := rfl

/-- The lines from one on, joined with line feeds, are the text from its start on. -/
theorem joinWith_linesFrom {n : Nat} (h : l + (n + 1) = b.lineCount)
    (hs : b.lineOffset? (l : Number) = some s) :
    Text.joinWith [Text.lineFeed] (b.linesFrom l (n + 1)) = b.text.drop s := by
  induction n generalizing l s with
  | zero =>
    rw [drop_lineOffset_last h hs]
    exact List.intercalate_singleton
  | succ n ih =>
    have hnext : l + 1 < b.lineCount := by omega
    obtain ⟨s', hs'⟩ := exists_lineOffset? hnext
    have hrest := ih (by omega) hs'
    rw [linesFrom_succ] at hrest
    rw [linesFrom_succ, linesFrom_succ, Text.joinWith, List.intercalate_cons_cons]
    rw [Text.joinWith] at hrest
    rw [hrest, drop_lineOffset_next hnext hs hs', List.append_assoc]
    rfl

theorem lineOffset?_zero (b : Buffer) : b.lineOffset? ((0 : Nat) : Number) = some 0 :=
  lineOffset?_natCast b.lineCount_pos

theorem joinWith_lines (b : Buffer) : Text.joinWith [Text.lineFeed] b.lines = b.text := by
  obtain ⟨n, hn⟩ := Nat.exists_eq_add_one_of_ne_zero (Nat.ne_of_gt b.lineCount_pos)
  rw [lines, hn, joinWith_linesFrom (by omega) b.lineOffset?_zero, List.drop_zero]

/-! ### What is in a line -/

/-- There is no line outside of the buffer. -/
theorem line_of_outside {i : Int} (h : i < 0 ∨ (b.lineCount : Int) ≤ i) :
    b.line (i : Number) = [] := by
  rw [line, if_pos]
  rcases h with hneg | hpast
  · exact .inl (Number.intCast_lt_intCast.mpr hneg)
  · exact .inr (Number.intCast_natCast b.lineCount ▸ Number.intCast_le_intCast.mpr hpast)

/-- Both ends of a line have the same line feeds before them. -/
theorem lineFeed_notMem_line (h : l < b.lineCount) : Text.lineFeed ∉ b.line (l : Number) := by
  obtain ⟨s, hs⟩ := exists_lineOffset? h
  have hstart := lineAt_eq h hs (Nat.le_refl s) (Nat.le_add_right s _)
  have hstop := lineAt_eq h hs (Nat.le_add_right s _) (Nat.le_refl _)
  rw [lineAt_natCast] at hstart hstop
  rw [List.take_add, List.count_append, hstart, ← line_eq_take h hs] at hstop
  exact List.count_eq_zero.mp (by omega)

theorem mem_text_of_mem_line {u : UInt16} (h : l < b.lineCount) (hu : u ∈ b.line (l : Number)) :
    u ∈ b.text := by
  obtain ⟨s, hs⟩ := exists_lineOffset? h
  rw [line_eq_take h hs] at hu
  exact List.mem_of_mem_drop (List.mem_of_mem_take hu)

/-! ### Adding lengths up -/

/-- A line starts behind the earlier lines and their line feeds. -/
theorem lineOffset?_eq_total (h : l < b.lineCount) :
    b.lineOffset? (l : Number) =
      some (total (fun (k : Nat) => b.lineLength (k : Number) + 1) (List.range l)) := by
  induction l with
  | zero => exact b.lineOffset?_zero
  | succ l ih =>
    obtain ⟨s, hs⟩ := exists_lineOffset? (Nat.lt_of_succ_lt h)
    obtain ⟨s', hs'⟩ := exists_lineOffset? h
    have hspan := lineLength_next h hs hs'
    have hs : s = _ := Option.some.inj (hs.symm.trans (ih (Nat.lt_of_succ_lt h)))
    rw [hs', List.range_succ, total_append, ← hs, ← hspan]
    rfl

/-- **The lines of a buffer partition its text.**  Whatever a buffer held, with another text it is
the buffer made of that text, and its table of line starts is the old one filled again; so every
query is answered alike.  There is one line more than the text has line feeds.  The lines joined
with line feeds are the text, and no line holds a line feed or a carriage return.  A line starts
behind the earlier lines and their line feeds: the first one at zero, and later ones later. -/
theorem lines_partition (t : Text) :
    (∀ earlier : Buffer, earlier.setText t = ofText t ∧
      (earlier.setText t).index = earlier.index.rebuild (earlier.setText t).text) ∧
    let b := ofText t
    b.lineCount = 1 + b.text.count Text.lineFeed ∧
      Text.joinWith [Text.lineFeed] b.lines = b.text ∧
      (∀ i : Int, Text.lineFeed ∉ b.line (i : Number) ∧ Text.carriageReturn ∉ b.line (i : Number)) ∧
      (∀ l < b.lineCount, b.lineOffset? (l : Number) =
        some (total (fun (k : Nat) => b.lineLength (k : Number) + 1) (List.range l))) ∧
      b.lineOffset? 0 = some 0 ∧
      ∀ l m : Nat, l < m → m < b.lineCount → ∃ s s', b.lineOffset? (l : Number) = some s ∧
        b.lineOffset? (m : Number) = some s' ∧ s < s' := by
  refine ⟨fun earlier => ⟨earlier.setText_eq t, earlier.index_setText t⟩, ?_⟩
  intro b
  refine ⟨?count, b.joinWith_lines, ?units, fun l hl => lineOffset?_eq_total hl,
    b.lineOffset?_zero, ?ascending⟩
  case count =>
    rw [Nat.add_comm]
    exact LineIndex.count_ofText b.text
  case units =>
    intro i
    rcases Decidable.em (i < 0 ∨ (b.lineCount : Int) ≤ i) with hout | hin
    · rw [line_of_outside hout]
      exact ⟨List.not_mem_nil, List.not_mem_nil⟩
    · obtain ⟨l, rfl⟩ := Int.eq_ofNat_of_zero_le (show 0 ≤ i by omega)
      have hl : l < b.lineCount := by omega
      rw [Number.intCast_natCast]
      refine ⟨lineFeed_notMem_line hl, ?_⟩
      intro hmem
      exact Text.carriageReturn_notMem_normalizeBreaks t (mem_text_of_mem_line hl hmem)
  case ascending =>
    intro l m hlm hm
    obtain ⟨s, hs⟩ := exists_lineOffset? (Nat.lt_trans hlm hm)
    obtain ⟨s', hs'⟩ := exists_lineOffset? hm
    exact ⟨s, s', hs, hs', lineOffset?_lt hlm hm hs hs'⟩

/-- A break at the start, an empty line and a break at the end. -/
example : (ofText (Text.ofString "\r\nab\r\n\rc\n")).lines =
    [[], Text.ofString "ab", [], Text.ofString "c", []] := by
  decide +kernel

end Buffer

end EditorGutter
