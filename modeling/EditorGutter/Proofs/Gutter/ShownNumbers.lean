import EditorGutter.Proofs.Buffer.LineSpans
import EditorGutter.Proofs.Gutter.Alignment
import EditorGutter.Proofs.Gutter.LineNumbers
import EditorGutter.Proofs.Number.DecimalDigits
import EditorGutter.Proofs.Selection.Primary
import EditorGutter.Proofs.Text.Trimming

/-!
The text of the line numbers, and what is read off a frame.

A visible line shows a tilde if it is the last line and has no text (`Buffer.isEmptyLast_iff`), and
its number otherwise: that of the line itself, or in relative mode its distance from the cursor
(`shownNumber_eq`).  The two are never confused, since no number is written with a tilde or a blank
(`Number.numeral_toText`).  For the same reason a number that fits its column is what is left of the
cell without the blanks (`trim_fit_padLeft`), and its digits are read as the number.  The main
result is `bindLineNumbers_shows`.
-/
namespace EditorGutter

open Text

/-! ### Texts of numbers -/

namespace Number

/-- The units of a number lie between those of the blanks and the tilde. -/
theorem numeral_toText {x : Number} {u : UInt16} (h : u ∈ x.toText) :
    0x2B ≤ u.toNat ∧ u.toNat ≤ 0x79 := by
  obtain ⟨c, hc, huc⟩ := exists_of_mem_ofChars x.printable_toChars h
  rw [huc]
  exact numeral_toChars x c hc

/-- No blank is written for a number. -/
theorem blankless_toText (x : Number) : Blankless x.toText := by
  intro u hmem
  obtain ⟨hlow, hhigh⟩ := numeral_toText hmem
  have hall : ∀ n ∈ List.range' 0x2B 0x4F, isBlank (UInt16.ofNat n) = false := by decide +kernel
  have hu := hall u.toNat (List.mem_range'_1.mpr ⟨hlow, by omega⟩)
  rwa [UInt16.ofNat_toNat] at hu

end Number

/-! ### Blanks around a text -/

namespace Text

variable {t : Text}

theorem trim_padLeft (h : Blankless t) (width : Nat) : trim (padLeft width t) = t := by
  have htrim := trim_around h (blank_spaces (width - t.length)) (nofun : Blank [])
  rwa [List.append_nil] at htrim

/-- A text without blanks that fits is read off the cell that it is written into. -/
theorem trim_fit_padLeft (hplain : Plain t) (h : Blankless t) {width : Nat}
    (hwidth : t.length ≤ width) : trim (fit width (padLeft width t)) = t := by
  have hlength : (padLeft width t).length = width := by
    rw [length_padLeft]
    omega
  rw [fit_plain (plain_padLeft hplain width), List.take_of_length_le (Nat.le_of_eq hlength),
    hlength, Nat.sub_self]
  show trim (padLeft width t ++ []) = t
  rw [List.append_nil, trim_padLeft h]

end Text

/-! ### Lines without text -/

/-- A line is the last one and has no text. -/
def Buffer.LastWithoutText (b : Buffer) (l : Nat) : Prop :=
  l + 1 = b.lineCount ∧ b.line (l : Number) = []

instance (b : Buffer) (l : Nat) : Decidable (b.LastWithoutText l) :=
  inferInstanceAs (Decidable (_ ∧ _))

/-- The last line starts at the end of the text exactly if it has no text. -/
theorem Buffer.isEmptyLast_iff {b : Buffer} {l : Nat} : b.IsEmptyLast l ↔ b.LastWithoutText l := by
  refine and_congr_right fun hlast => ?_
  obtain ⟨s, hs⟩ := exists_lineOffset? (Nat.lt_of_succ_le (Nat.le_of_eq hlast))
  have hlength : s + (b.line (l : Number)).length = b.length := lineLength_last hlast hs
  rw [hs, Option.some.injEq, ← List.length_eq_zero_iff]
  omega

/-! ### Labels of lines -/

/-- The number that a line goes by: in relative mode its distance from another line with the
cursor, and otherwise its place counted from one. -/
def lineLabel (mode : NumberingMode) (cursor l : Nat) : Nat :=
  if mode = .relative ∧ l ≠ cursor then ((cursor : Int) - l).natAbs else l + 1

/-- No label is above the number of lines. -/
theorem lineLabel_le {mode : NumberingMode} {cursor l count : Nat} (hcursor : cursor < count)
    (hl : l < count) : lineLabel mode cursor l ≤ count := by
  unfold lineLabel
  split <;> omega

/-- The text of a number that a line goes by. -/
def labelText (n : Nat) : Text := (Number.round (n : Rat)).toText

/-- Up to the limit of whole values a label has all its digits. -/
theorem labelText_eq {n : Nat} (h : n ≤ Number.wholeLimit) : labelText n = ofNat n := by
  rw [labelText, Number.round_natCast h, Number.toText, Number.toChars_natCast h]
  rfl

/-- What is computed for a line is its label, rounded once. -/
theorem shownNumber_eq (mode : NumberingMode) (cursor l : Nat) :
    shownNumber mode cursor l = Number.round (lineLabel mode cursor l : Nat) := by
  have hdistance : ((cursor : Rat) - (l : Rat)).abs = (((cursor : Int) - l).natAbs : Nat) := by
    rw [← Number.abs_intCast]
    push_cast
    rfl
  unfold shownNumber lineLabel
  by_cases h : mode = .relative ∧ l ≠ cursor
  · rw [if_pos ⟨h.1, Number.equals_natCast.not.mpr h.2⟩, if_pos h, ← hdistance,
      ← Number.abs_round]
    exact congrArg Number.abs (Number.finite_sub_finite cursor l)
  · rw [if_neg fun h' => h ⟨h'.1, Number.equals_natCast.not.mp h'.2⟩, if_neg h, Nat.cast_succ]
    exact Number.finite_add_finite l 1

/-- A mark says of a line what it should: a tilde in the plain style on the last line if that has no
text, and the label of the line otherwise. -/
structure Mark.Labels (scene : Scene) (plain : Style) (cursor width l : Nat) (selected : Bool)
    (mark : Mark) : Prop where
  tilde_iff : mark.text = padLeft width (ofString Glyph.emptyLastLine) ↔
    scene.doc.buffer.LastWithoutText l
  style_of_tilde : scene.doc.buffer.LastWithoutText l → mark.style = some plain
  text : ¬ scene.doc.buffer.LastWithoutText l →
    mark.text = padLeft width (labelText (lineLabel scene.editor.config.numbering cursor l))
  style : ¬ scene.doc.buffer.LastWithoutText l →
    mark.style = some (if selected ∧ scene.focused
      then (scene.theme.style? Scope.lineNumberSelected.text).getD plain else plain)

/-- No number is taken for a tilde. -/
theorem padLeft_toText_ne (x : Number) (width : Nat) :
    padLeft width x.toText ≠ padLeft width (ofString Glyph.emptyLastLine) := by
  intro h
  have htilde : 0x7E ∈ padLeft width x.toText := by
    rw [h]
    exact List.mem_append_right _ (by decide)
  rcases List.mem_append.mp htilde with hspace | hnumber
  · exact absurd (List.eq_of_mem_replicate hspace) (by decide)
  · exact absurd (Number.numeral_toText hnumber).2 (by decide)

theorem labels_numberedMark (scene : Scene) (width : Nat) (plain : Style) (cursor l : Nat)
    (selected : Bool) :
    (numberedMark scene width plain cursor l selected).Labels scene plain cursor width l
      selected := by
  unfold numberedMark
  rw [shownNumber_eq]
  by_cases hlast : scene.doc.buffer.LastWithoutText l
  · rw [if_pos (Buffer.isEmptyLast_iff.mpr hlast)]
    exact ⟨iff_of_true rfl hlast, fun _ => rfl, absurd hlast, absurd hlast⟩
  · rw [if_neg (Buffer.isEmptyLast_iff.not.mpr hlast)]
    refine ⟨iff_of_false (padLeft_toText_ne _ width) hlast, fun h => absurd h hlast, fun _ => rfl,
      fun _ => ?_⟩
    simp only [Bool.and_eq_true]

/-! ### Labels in frames -/

/-- The cell of a column of line numbers is read as a label that the column has room for. -/
def Cell.ReadsAs (n : Nat) (c : Column) (cell : Cell) : Prop :=
  c.gutter = .builtin .lineNumbers → (labelText n).length ≤ c.width →
    cell.text.trim = labelText n ∧
      (n ≤ Number.wholeLimit → cell.text.trim = ofNat n ∧
        Record.continueDecimal? 0 cell.text.trim = some n)

/-- A label that is written right-aligned is read off its cell. -/
theorem readsAs_of_text {n : Nat} {c : Column} {cell : Cell}
    (h : c.gutter = .builtin .lineNumbers →
      cell.text = fit c.width (padLeft c.width (labelText n))) : cell.ReadsAs n c := by
  intro hgutter hwidth
  have htrim : cell.text.trim = labelText n := by
    rw [h hgutter]
    exact trim_fit_padLeft (plain_toText _) (Number.blankless_toText _) hwidth
  refine ⟨htrim, fun hn => ?_⟩
  rw [htrim, labelText_eq hn]
  exact ⟨rfl, Record.continueDecimal?_ofNat n⟩

section

variable {scene : Scene} {o : Nat} {plain : Style}

/-- Line numbers that can be bound label the visible lines. -/
theorem exists_bindLineNumbers {cursor : Nat} (ho : scene.view.AtLine o)
    (hplain : scene.theme.style? Scope.lineNumber.text = some plain)
    (hcursor : (scene.doc.selection scene.view.id).primaryCursorLine scene.doc.buffer = .ok cursor)
    (width : Nat) :
    ∃ draw, bindLineNumbers scene width = .ok draw ∧
      ∀ l : Nat, (l : Number) ∈ scene.visibleLines → ∀ selected,
        (draw l selected).Labels scene plain cursor width l selected := by
  have hstyle : scene.theme.style Scope.lineNumber.text = .ok plain := by
    rw [Theme.style, hplain]
  have hbind : bindLineNumbers scene width = .ok (drawNumber scene width plain cursor) := by
    rw [bindLineNumbers_eq, hstyle, hcursor]
    rfl
  refine ⟨_, hbind, ?_⟩
  obtain ⟨plain', cursor', hstyle', hcursor', hdraw⟩ := bindLineNumbers_draw scene ho hbind
  obtain rfl := Except.ok.inj (hstyle.symm.trans hstyle')
  obtain rfl := Except.ok.inj (hcursor.symm.trans hcursor')
  intro l hl selected
  rw [hdraw l hl selected]
  exact labels_numberedMark scene width plain cursor l selected

/-- **Line numbers show what a line is, and it can be read off a frame.**  With a theme that has a
style for them, a selection with a primary range and a view at a line, they can be bound at any
width.  They mark the last line of the document with a tilde if it has no text, and no other line,
and label every other visible line, right-aligned: with its place counted from one, or in relative
mode, on other lines than that of the primary cursor, with the distance from there.  In a frame,
what is left of the cell without its blanks is read as that number, if the column has room for its
digits.  A label has all its digits up to `2 ^ 53`, and it is never above the number of lines. -/
theorem bindLineNumbers_shows (ho : scene.view.AtLine o)
    (hplain : scene.theme.style? Scope.lineNumber.text = some plain)
    (hprimary : (scene.doc.selection scene.view.id).HasPrimary) :
    ∃ cursor, (scene.doc.selection scene.view.id).primaryCursorLine scene.doc.buffer =
        .ok cursor ∧
      (∀ width, ∃ draw, bindLineNumbers scene width = .ok draw ∧
        ∀ l : Nat, (l : Number) ∈ scene.visibleLines → ∀ selected,
          (draw l selected).Labels scene plain cursor width l selected) ∧
      (∀ l < scene.doc.buffer.lineCount,
        lineLabel scene.editor.config.numbering cursor l ≤ scene.doc.buffer.lineCount) ∧
      ∀ (cs : Columns) frame, cs.render scene = .ok frame →
        frame.rows.map Row.line = scene.visibleLines ∧
        ∀ row ∈ frame.rows, ∀ l : Nat, row.line = (l : Number) →
          ¬ scene.doc.buffer.LastWithoutText l →
            List.Forall₂ (Cell.ReadsAs (lineLabel scene.editor.config.numbering cursor l))
              cs.columns row.cells := by
  obtain ⟨cursor, hheld, hcursor⟩ := hprimary.exists_line scene.doc.buffer
  refine ⟨cursor, hcursor, exists_bindLineNumbers ho hplain hcursor,
    fun l hl => lineLabel_le hheld hl, ?_⟩
  intro cs frame hframe
  obtain ⟨bound, hbound, -, hrows⟩ := Columns.render_eq_ok.mp hframe
  constructor
  · rw [hrows, List.map_map]
    exact List.map_id _
  · intro row hrow l hl hlast
    obtain ⟨line, hline, rfl⟩ := List.mem_map.mp (hrows ▸ hrow)
    obtain rfl : line = l := hl
    -- each cell is drawn by the renderer that its column is bound to
    show List.Forall₂ _ cs.columns (bound.map _)
    rw [List.forall₂_map_right_iff]
    refine hbound.imp ?_
    rintro c b ⟨rfl, hb⟩
    refine readsAs_of_text fun hgutter => ?_
    obtain ⟨draw, hdraw, hlabels⟩ := exists_bindLineNumbers ho hplain hcursor b.column.width
    rw [hgutter] at hb
    obtain rfl := Except.ok.inj (hdraw.symm.trans hb)
    exact congrArg (fit b.column.width) ((hlabels l hline _).text hlast)

end

/-- In the sample scene with relative numbers the cursor is on the fifth line, so the third one is
labelled with two; and the text ends with a line feed, so the last line has a tilde. -/
theorem bindLineNumbers_shows_sample :
    ∃ draw frame, bindLineNumbers (Sample.scene .relative) 4 = .ok draw ∧
      (∀ selected, (draw (6 : Nat) selected).text = ofString "   ~") ∧
      (Columns.oneEach 4 (by decide)).render (Sample.scene .relative) = .ok frame ∧
      ∀ row ∈ frame.rows, row.line = (2 : Nat) →
        ∃ cell ∈ row.cells, Record.continueDecimal? 0 cell.text.trim = some 2 := by
  have hstyle : ((Sample.scene .relative).theme.style? Scope.lineNumber.text).isSome = true := by
    decide +kernel
  obtain ⟨plain, hplain⟩ := Option.isSome_iff_exists.mp hstyle
  have hprimary : ((Sample.scene .relative).doc.selection
      (Sample.scene .relative).view.id).HasPrimary := Selection.hasPrimary_iff.mpr ⟨0, rfl⟩
  have hok : ((Columns.oneEach 4 (by decide)).render (Sample.scene .relative)).isOk = true := by
    decide +kernel
  obtain ⟨frame, hframe⟩ := exists_eq_ok hok
  obtain ⟨cursor, hcursor, hdraw, -, hrender⟩ :=
    @bindLineNumbers_shows (Sample.scene .relative) 0 plain rfl hplain hprimary
  have hfifth : ((Sample.scene .relative).doc.selection
      (Sample.scene .relative).view.id).primaryCursorLine (Sample.scene .relative).doc.buffer =
        .ok 4 := by
    decide +kernel
  obtain rfl := Except.ok.inj (hcursor.symm.trans hfifth)
  obtain ⟨draw, hbind, hlabels⟩ := hdraw 4
  refine ⟨draw, frame, hbind, fun selected => ?_, hframe, ?_⟩
  · have hvisible : ((6 : Nat) : Number) ∈ (Sample.scene .relative).visibleLines := by
      decide +kernel
    have hlast : (Sample.scene .relative).doc.buffer.LastWithoutText 6 := by decide +kernel
    exact (hlabels 6 hvisible selected).tilde_iff.mpr hlast
  · intro row hrow hline
    have hnot : ¬ (Sample.scene .relative).doc.buffer.LastWithoutText 2 := by decide +kernel
    have hcells := (hrender _ frame hframe).2 row hrow 2 hline hnot
    obtain ⟨_, rest, -, hrest, hrow⟩ := List.forall₂_cons_left_iff.mp hcells
    obtain ⟨_, rest', -, hrest', rfl⟩ := List.forall₂_cons_left_iff.mp hrest
    obtain ⟨cell, _, hcell, -, rfl⟩ := List.forall₂_cons_left_iff.mp hrest'
    refine ⟨cell, hrow ▸ by simp, ?_⟩
    exact ((hcell rfl (by decide +kernel)).2 (by decide)).2

end EditorGutter
