import EditorGutter.Proofs.Buffer.Partition

/-!
Byte offsets add up line by line.

The size of a text in UTF-8 is that of the string that it is read as, in which a surrogate that
stands alone is replaced (`Text.utf8Size_eq_utf8ByteSize`).  It does not add up over every cut: the
halves of a surrogate pair take three bytes each, and the pair takes four.  But no line starts or
ends between the two halves, since a line feed is neither of them (`Text.cutApart_lineFeed`).  So a
line starts behind the bytes of the line before it and one more (`lineByteOffset_next`), and the
last line ends with the last byte (`byteLength_last`).

The main result is `byteOffsets_add_up`.
-/
namespace EditorGutter

namespace Text

/-! ### Sizes in UTF-8 -/

/-- A code point has the size of the character that it is read as. -/
theorem utf8Size_charOf {c : Nat} (h : c < 0x110000) :
    (charOf c).utf8Size = codePointSize c := by
  unfold codePointSize
  by_cases hvalid : c.isValidChar
  · rw [charOf, dif_pos hvalid]
    show (if c ≤ 127 then 1 else if c ≤ 2047 then 2 else if c ≤ 65535 then 3 else 4) = _
    split_ifs <;> omega
  · -- the replacement of a surrogate is itself one of three bytes
    have hsurrogate : 0xD800 ≤ c ∧ c ≤ 0xDFFF := by
      unfold Nat.isValidChar at hvalid
      omega
    rw [charOf, dif_neg hvalid]
    show 3 = _
    split_ifs <;> omega

theorem utf8ByteSize_ofList (cs : List Char) :
    (String.ofList cs).utf8ByteSize = total Char.utf8Size cs := by
  induction cs with
  | nil => rfl
  | cons c cs ih =>
    rw [← List.singleton_append, String.ofList_append, String.utf8ByteSize_append, ih,
      ← String.singleton_eq_ofList, String.utf8ByteSize_singleton]
    rfl

/-- The size of a text is that of the string that it is read as. -/
theorem utf8Size_eq_utf8ByteSize (t : Text) : utf8Size t = (toString t).utf8ByteSize := by
  rw [toString, utf8ByteSize_ofList, utf8Size]
  have hlt := (isReading_codePoints t).lt
  generalize codePoints t = cs at hlt
  induction cs with
  | nil => rfl
  | cons c cs ih =>
    obtain ⟨hc, hcs⟩ := List.forall_mem_cons.mp hlt
    rw [List.map_cons, total_cons, total_cons, utf8Size_charOf hc, ih hcs]

/-- A line feed is not the second half of a surrogate pair. -/
theorem cutApart_lineFeed (t rest : Text) : CutApart t (lineFeed :: rest) := by
  intro u _ v hv hpair
  obtain rfl : lineFeed = v := Option.some.inj hv
  exact absurd (Bool.and_eq_true_iff.mp hpair).2 (by decide)

end Text

namespace Buffer

variable {b : Buffer} {l m s s' : Nat}

/-! ### Lines and their line feeds -/

/-- The text before a line ends with the line before it and its line feed. -/
theorem take_lineOffset_next (h : l + 1 < b.lineCount) (hs : b.lineOffset? (l : Number) = some s)
    (hs' : b.lineOffset? ((l + 1 : Nat) : Number) = some s') :
    b.text.take s' = b.text.take s ++ (b.line (l : Number) ++ [Text.lineFeed]) := by
  have htext : b.text.take s' ++ b.text.drop s' =
      (b.text.take s ++ (b.line (l : Number) ++ [Text.lineFeed])) ++ b.text.drop s' := by
    rw [List.append_assoc, List.append_assoc, List.singleton_append,
      ← drop_lineOffset_next h hs hs', List.take_append_drop, List.take_append_drop]
  exact List.append_cancel_right htext

/-- A line starts behind the bytes of the line before it and its line feed. -/
theorem lineByteOffset_next (h : l + 1 < b.lineCount) :
    b.lineByteOffset ((l + 1 : Nat) : Number) =
      b.lineByteOffset (l : Number) + Text.utf8Size (b.line (l : Number)) + 1 := by
  have hl := Nat.lt_of_succ_lt h
  obtain ⟨s, hs⟩ := exists_lineOffset? hl
  obtain ⟨s', hs'⟩ := exists_lineOffset? h
  rw [lineByteOffset, lineByteOffset, hs, hs', Option.getD_some, Option.getD_some,
    take_lineOffset_next h hs hs', Text.utf8Size_append ((endsWhole_take hl hs).cutApart _),
    Text.utf8Size_append (Text.cutApart_lineFeed _ []), Nat.add_assoc]
  rfl

/-- The last line ends with the last byte. -/
theorem byteLength_last (h : l + 1 = b.lineCount) :
    b.byteLength = b.lineByteOffset (l : Number) + Text.utf8Size (b.line (l : Number)) := by
  have hl : l < b.lineCount := Nat.lt_of_succ_le (Nat.le_of_eq h)
  obtain ⟨s, hs⟩ := exists_lineOffset? hl
  rw [byteLength_eq hl hs, drop_lineOffset_last h hs]

/-- Later lines start at later bytes. -/
theorem lineByteOffset_lt (hlm : l < m) (hm : m < b.lineCount) :
    b.lineByteOffset (l : Number) < b.lineByteOffset (m : Number) := by
  induction m with
  | zero => cases hlm
  | succ m ih =>
    have hnext := lineByteOffset_next hm
    rcases Nat.lt_or_eq_of_le (Nat.le_of_lt_succ hlm) with hlt | rfl
    · have := ih hlt (Nat.lt_of_succ_lt hm)
      omega
    · omega

/-! ### Any line that is asked for -/

/-- Asked for any line, a buffer answers with the start of a line that it has. -/
theorem exists_line_of_lineOffset? {n : Number} (hs : b.lineOffset? n = some s) :
    ∃ l < b.lineCount, b.lineOffset? (l : Number) = some s := by
  have hanswer := hs
  rw [lineOffset?, LineIndex.start?] at hs
  split_ifs at hs with hneg hpast
  · obtain rfl := Option.some.inj hs
    exact ⟨0, b.lineCount_pos, b.lineOffset?_zero⟩
  · -- past the lines the last one is meant
    obtain rfl := Option.some.inj hs
    have hlast : b.lineCount - 1 < b.lineCount := Nat.sub_one_lt_of_lt b.lineCount_pos
    refine ⟨b.lineCount - 1, hlast, ?_⟩
    rw [lineOffset?_natCast hlast]
    exact (List.getLast?_eq_getElem? ..).symm.trans (List.getLast?_eq_some_getLast _)
  · split at hs
    · next l hl =>
      obtain ⟨hlt, -⟩ := List.getElem?_eq_some_iff.mp hs
      rw [Number.toNat?_eq_some_iff.mp hl] at hanswer
      exact ⟨l, hlt, hanswer⟩
    · cases hs

/-- A line starts before the last byte exactly if it starts before the last unit, for any number
that is asked for as a line. -/
theorem lineByteOffset_lt_byteLength_iff_lineOffset (b : Buffer) (n : Number) :
    b.lineByteOffset n < b.byteLength ↔ ∃ s, b.lineOffset? n = some s ∧ s < b.length := by
  rcases hs : b.lineOffset? n with - | s
  · -- where no line is named, all bytes are counted
    have hall : b.lineByteOffset n = b.byteLength := by
      rw [lineByteOffset, hs]
      exact congrArg Text.utf8Size (List.take_of_length_le (Nat.le_refl _))
    refine iff_of_false (fun hlt => Nat.ne_of_lt hlt hall) ?_
    rintro ⟨s, hsome, -⟩
    cases hsome
  · obtain ⟨l, hl, hline⟩ := exists_line_of_lineOffset? hs
    have hsame : b.lineByteOffset n = b.lineByteOffset (l : Number) := by
      rw [lineByteOffset, lineByteOffset, hs, hline]
    have hsize := byteLength_eq hl hline
    constructor
    · intro hlt
      refine ⟨s, rfl, Nat.lt_of_not_le fun hle => ?_⟩
      -- nothing comes after the end of the text
      rw [List.drop_eq_nil_of_le hle] at hsize
      exact Nat.ne_of_lt hlt (hsame.trans hsize.symm)
    · rintro ⟨_, hsome, hlt⟩
      obtain rfl := Option.some.inj hsome
      have hne : b.text.drop s ≠ [] := fun hnil => Nat.not_le.mpr hlt (List.drop_eq_nil_iff.mp hnil)
      have := Text.utf8Size_pos hne
      omega

/-- **Byte offsets add up line by line**, counted in the UTF-8 of the string that a text is read as.
The first line starts at the first byte, every other line behind the bytes of the line before it and
of its line feed, and the last line ends with the last byte.  Hence later lines start at later
bytes, and a line starts before the last byte exactly if it starts before the last unit; the latter
holds of every number, also where it names no line. -/
theorem byteOffsets_add_up (b : Buffer) :
    (∀ t : Text, t.utf8Size = t.toString.utf8ByteSize) ∧
    b.lineByteOffset 0 = 0 ∧
    (∀ l : Nat, l + 1 < b.lineCount →
      b.lineByteOffset ((l + 1 : Nat) : Number) =
        b.lineByteOffset (l : Number) + (b.line (l : Number)).utf8Size + 1) ∧
    (∀ last : Nat, last + 1 = b.lineCount →
      b.byteLength = b.lineByteOffset (last : Number) + (b.line (last : Number)).utf8Size) ∧
    (∀ l m : Nat, l < m → m < b.lineCount →
      b.lineByteOffset (l : Number) < b.lineByteOffset (m : Number)) ∧
    ∀ n : Number, b.lineByteOffset n < b.byteLength ↔
      ∃ s, b.lineOffset? n = some s ∧ s < b.length := by
  refine ⟨Text.utf8Size_eq_utf8ByteSize, ?_, fun l h => lineByteOffset_next h,
    fun last h => byteLength_last h, fun l m hlm hm => lineByteOffset_lt hlm hm,
    b.lineByteOffset_lt_byteLength_iff_lineOffset⟩
  have hzero : b.lineOffset? 0 = some 0 := b.lineOffset?_zero
  rw [lineByteOffset, hzero, Option.getD_some, List.take_zero]
  rfl

/-- A letter and a surrogate pair on the first line, and on each of the next two lines a half of a
pair that stands alone. -/
def strayHalves : Text :=
  [0x61, 0xD83D, 0xDE00, Text.lineFeed, 0xD83D, Text.lineFeed, 0xDE00]

/-- The pair takes four bytes and each of the halves three, and the line feed between the halves is
counted apart from both. -/
theorem byteOffsets_add_up_strayHalves :
    let b := ofText strayHalves
    1 + 1 < b.lineCount ∧ 2 + 1 = b.lineCount ∧
      (b.line 0).utf8Size = 5 ∧ (b.line 1).utf8Size = 3 ∧ (b.line 2).utf8Size = 3 ∧
      b.lineByteOffset 1 = 6 ∧ b.lineByteOffset 2 = 10 ∧ b.byteLength = 13 ∧
      b.lineByteOffset 1 < b.lineByteOffset 2 ∧ b.lineByteOffset 2 < b.byteLength := by
  intro b
  have hnext : 1 + 1 < b.lineCount := by decide +kernel
  have hlast : 2 + 1 = b.lineCount := by decide +kernel
  have hfirst : (b.line 0).utf8Size = 5 := by decide +kernel
  have hhigh : (b.line 1).utf8Size = 3 := by decide +kernel
  have hlow : (b.line 2).utf8Size = 3 := by decide +kernel
  obtain ⟨-, hzero, hadd, hlength, hlt, hbefore⟩ := byteOffsets_add_up b
  have hone : b.lineByteOffset 1 = 6 := by
    calc b.lineByteOffset 1
        = b.lineByteOffset 0 + (b.line 0).utf8Size + 1 := hadd 0 (Nat.lt_of_succ_lt hnext)
      _ = 6 := by rw [hzero, hfirst]
  have htwo : b.lineByteOffset 2 = 10 := by
    calc b.lineByteOffset 2
        = b.lineByteOffset 1 + (b.line 1).utf8Size + 1 := hadd 1 hnext
      _ = 10 := by rw [hone, hhigh]
  have hend : b.byteLength = 13 := by
    calc b.byteLength
        = b.lineByteOffset 2 + (b.line 2).utf8Size := hlength 2 hlast
      _ = 13 := by rw [htwo, hlow]
  exact ⟨hnext, hlast, hfirst, hhigh, hlow, hone, htwo, hend,
    hlt 1 2 (Nat.lt_succ_self 1) (Nat.lt_of_succ_le (Nat.le_of_eq hlast)),
    (hbefore 2).mpr ⟨6, by decide +kernel, by decide +kernel⟩⟩

end Buffer

end EditorGutter
