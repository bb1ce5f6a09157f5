import EditorGutter.Buffer
import EditorGutter.Fault

/-!
Selections: ranges of offsets, one of which is primary.

The cursor of a range stands on the last selected character, and not past it, when the head lies
after the anchor.  A selection has at least one range.  Its primary index is only kept from being
below zero or past the last range; an index that is neither and still names no range, a fraction
or NaN, is found out by those who ask for the primary range (`Selection.primary?`).
-/
namespace EditorGutter

/-- A range of offsets from where it was begun to where it was drawn. -/
structure Range where
  anchor : Number
  head : Number
  deriving DecidableEq, Repr

namespace Text

/-- The unit at an offset. -/
def unitAt? (t : Text) (offset : Number) : Option UInt16 :=
  if offset < 0 then none
  else match offset with
    | .finite q => t[q.floor.toNat]?
    | _ => none

end Text

namespace Range

/-- The offset of the cursor of a range in a text: the head, or for a range drawn forward the
start of the last character before it. -/
def cursor (r : Range) (t : Text) : Number :=
  if r.head ≤ r.anchor then r.head
  else
    let last := r.head.moveBy t.length (-1)
    if 0 < last ∧ (t.unitAt? last).any Text.isLowSurrogate then last.moveBy t.length (-1) else last

/-- The lower end. -/
def low (r : Range) : Number := Number.min r.anchor r.head

/-- The upper end. -/
def high (r : Range) : Number := Number.max r.anchor r.head

/-- Whether nothing is selected. -/
def isEmpty (r : Range) : Bool := r.anchor.equals r.head

/-- The range with both ends held between zero and `length`. -/
def clamp (length : Number) (r : Range) : Range :=
  ⟨r.anchor.clampTo length, r.head.clampTo length⟩

end Range

/-- One or more ranges and the index of the primary one. -/
structure Selection where
  ranges : List Range
  primaryIndex : Number
  ranges_ne_nil : ranges ≠ []
  not_negative : ¬ primaryIndex < 0
  not_past : ¬ (ranges.length : Number) ≤ primaryIndex
  deriving DecidableEq

namespace Selection

/-- The selection of some ranges, unless there are none or the primary index is out of bounds. -/
def ofRanges? (ranges : List Range) (primaryIndex : Number) : Except Fault Selection :=
  if h : ranges = [] then .error (.range .noRanges)
  else if h₁ : primaryIndex < 0 then .error (.range (.primaryIndex primaryIndex ranges.length))
  else if h₂ : (ranges.length : Number) ≤ primaryIndex then
    .error (.range (.primaryIndex primaryIndex ranges.length))
  else .ok ⟨ranges, primaryIndex, h, h₁, h₂⟩

/-- The selection of a single range. -/
def single (anchor head : Number) : Selection where
  ranges := [⟨anchor, head⟩]
  primaryIndex := 0
  ranges_ne_nil := List.cons_ne_nil _ _
  not_negative := fun h => Nat.lt_irrefl 0 (Number.natCast_lt_natCast.1 h)
  not_past := fun h => Nat.not_succ_le_zero 0 (Number.natCast_le_natCast.1 h)

/-- A cursor without extent. -/
def point (offset : Number) : Selection := single offset offset

/-- The selection with every range held between zero and `length`. -/
def clamp (length : Number) (s : Selection) : Selection where
  ranges := s.ranges.map (Range.clamp length)
  primaryIndex := s.primaryIndex
  ranges_ne_nil := by simpa using s.ranges_ne_nil
  not_negative := s.not_negative
  not_past := by simpa using s.not_past

/-- The range that the primary index names. -/
def primary? (s : Selection) : Option Range :=
  match s.primaryIndex.toNat? with
  | some i => s.ranges[i]?
  | none => none

/-- The line of the primary cursor. -/
def primaryCursorLine (s : Selection) (b : Buffer) : Except Fault Nat :=
  match s.primary? with
  | some r => .ok (b.lineAt (r.cursor b.text))
  | none => .error .noPrimaryRange

/-- Puts a line into an ascending list of distinct lines. -/
def insertLine (l : Nat) : List Nat → List Nat
  | [] => [l]
  | m :: rest =>
    if l < m then l :: m :: rest else if l = m then m :: rest else m :: insertLine l rest

/-- The lines that hold a cursor, ascending and each once. -/
def cursorLines (s : Selection) (b : Buffer) : List Nat :=
  s.ranges.foldr (fun r lines => insertLine (b.lineAt (r.cursor b.text)) lines) []

theorem mem_insertLine {l m : Nat} {lines : List Nat} :
    m ∈ insertLine l lines ↔ m = l ∨ m ∈ lines := by
  induction lines with
  | nil => simp [insertLine]
  | cons k rest ih =>
    simp only [insertLine]
    split
    · simp
    · split
      · next h => simp [h]
      · simp only [List.mem_cons, ih]
        grind

theorem mem_cursorLines {s : Selection} {b : Buffer} {l : Nat} :
    l ∈ s.cursorLines b ↔ ∃ r ∈ s.ranges, l = b.lineAt (r.cursor b.text) := by
  unfold cursorLines
  induction s.ranges with
  | nil => simp
  | cons r rest ih => simp [mem_insertLine, ih]

theorem pairwise_insertLine {l : Nat} {lines : List Nat} (h : lines.Pairwise (· < ·)) :
    (insertLine l lines).Pairwise (· < ·) := by
  induction lines with
  | nil => simp [insertLine]
  | cons k rest ih =>
    obtain ⟨hk, hrest⟩ := List.pairwise_cons.1 h
    simp only [insertLine]
    split
    · next hl =>
      refine List.pairwise_cons.2 ⟨?_, h⟩
      intro m hm
      rcases List.mem_cons.1 hm with rfl | hm
      · exact hl
      · exact Nat.lt_trans hl (hk m hm)
    · split
      · exact h
      · refine List.pairwise_cons.2 ⟨?_, ih hrest⟩
        intro m hm
        rcases mem_insertLine.1 hm with rfl | hm
        · omega
        · exact hk m hm

theorem pairwise_cursorLines (s : Selection) (b : Buffer) :
    (s.cursorLines b).Pairwise (· < ·) := by
  unfold cursorLines
  induction s.ranges with
  | nil => simp
  | cons r rest ih => exact pairwise_insertLine ih

end Selection

end EditorGutter
