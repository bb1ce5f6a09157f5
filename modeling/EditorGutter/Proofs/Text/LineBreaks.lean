import EditorGutter.Buffer

/-!
Line breaks are normalized in one pass.

Scanned once from left to right, a text is a list of pieces (`scan`): breaks, each as long as it can
be, and units that are none.  The scan reads the text without loss, and it is the only list of
pieces that does and in which no carriage return is kept apart from a line feed that follows it
(`scan_eq_iff`).

A buffer normalizes in two replacements instead, and the first one can put a carriage return right
before a line feed that it made itself.  The second does not look at what follows, so both together
still leave one unit for each piece of the scan: a line feed for a break, and any other unit as it
is (`normalizeBreaks_eq`).  The main result is `normalize_onePass`.
-/
namespace EditorGutter

namespace Text

/-! ### Pieces -/

/-- What a text consists of, as it is scanned for line breaks. -/
inductive Piece where
  /-- A carriage return and a line feed. -/
  | pair
  /-- A carriage return by itself. -/
  | loneReturn
  /-- A line feed by itself. -/
  | feed
  | other (u : UInt16) (not_return : u ≠ carriageReturn) (not_feed : u ≠ lineFeed)

namespace Piece

/-- The units of a piece. -/
def units : Piece → Text
  | .pair => [carriageReturn, lineFeed]
  | .loneReturn => [carriageReturn]
  | .feed => [lineFeed]
  | .other u _ _ => [u]

/-- Whether a piece ends a line. -/
def isBreak : Piece → Bool
  | .other _ _ _ => false
  | _ => true

/-- What is left of a piece in a text whose line breaks are line feeds. -/
def normal : Piece → UInt16
  | .other u _ _ => u
  | _ => lineFeed

/-- The piece of a single unit. -/
def ofUnit (u : UInt16) : Piece :=
  if hreturn : u = carriageReturn then .loneReturn
  else if hfeed : u = lineFeed then .feed
  else .other u hreturn hfeed

@[simp] theorem units_ofUnit (u : UInt16) : (ofUnit u).units = [u] := by
  unfold ofUnit
  split
  · next h => rw [h]; rfl
  · split
    · next h => rw [h]; rfl
    · rfl

@[simp] theorem normal_ofUnit (u : UInt16) :
    (ofUnit u).normal = if u = carriageReturn then lineFeed else u := by
  unfold ofUnit
  split
  · rfl
  · split
    · next h => rw [h]; rfl
    · rfl

theorem normal_eq_lineFeed_iff (p : Piece) : p.normal = lineFeed ↔ p.isBreak := by
  cases p with
  | other u hreturn hfeed => exact iff_of_false hfeed Bool.false_ne_true
  | _ => exact iff_of_true rfl rfl

/-- In some pieces, each break is as long as it can be: no carriage return stands by itself before a
line feed by itself. -/
def Maximal : List Piece → Prop
  | [] => True
  | p :: rest => (p = .loneReturn → rest.head? ≠ some .feed) ∧ Maximal rest

end Piece

open Piece

/-! ### Scanning -/

/-- The pieces of a text, each break taken as long as it can be. -/
def scan : Text → List Piece
  | [] => []
  | [u] => [.ofUnit u]
  | u :: v :: rest =>
    if u = carriageReturn ∧ v = lineFeed then .pair :: scan rest else .ofUnit u :: scan (v :: rest)

theorem scan_cons {u : UInt16} {t : Text} (h : u = carriageReturn → t.head? ≠ some lineFeed) :
    scan (u :: t) = .ofUnit u :: scan t := by
  rcases t with - | ⟨v, rest⟩
  · rfl
  · rw [scan, if_neg]
    rintro ⟨hu, rfl⟩
    exact h hu rfl

/-- Scanning loses nothing. -/
theorem flatMap_units_scan (t : Text) : (scan t).flatMap units = t := by
  fun_induction scan t with
  | case1 => rfl
  | case2 u => simp
  | case3 u v rest h ih =>
    obtain ⟨rfl, rfl⟩ := h
    rw [List.flatMap_cons, ih]
    rfl
  | case4 u v rest h ih =>
    rw [List.flatMap_cons, ih, units_ofUnit]
    rfl

/-- The text of some pieces starts with a line feed only if the first piece is one. -/
theorem eq_feed_of_head? {p : Piece} {ps : List Piece}
    (h : ((p :: ps).flatMap units).head? = some lineFeed) : p = .feed := by
  cases p with
  | pair => cases h
  | loneReturn => cases h
  | feed => rfl
  | other u hreturn hfeed => exact absurd (Option.some.inj h) hfeed

/-- The pieces of a text whose breaks are as long as they can be are found by scanning it. -/
theorem scan_flatMap_units {ps : List Piece} (h : Maximal ps) : scan (ps.flatMap units) = ps := by
  induction ps with
  | nil => rfl
  | cons p ps ih =>
    have hrest := ih h.2
    cases p with
    | pair =>
      show scan (carriageReturn :: lineFeed :: ps.flatMap units) = _
      rw [scan, if_pos ⟨rfl, rfl⟩, hrest]
    | loneReturn =>
      -- what follows is no line feed, so the carriage return is scanned by itself
      have hhead : (ps.flatMap units).head? ≠ some lineFeed := by
        intro hhead
        rcases ps with - | ⟨q, qs⟩
        · cases hhead
        · exact h.1 rfl (congrArg some (eq_feed_of_head? hhead))
      show scan (carriageReturn :: ps.flatMap units) = _
      rw [scan_cons fun _ => hhead, hrest]
      rfl
    | feed =>
      show scan (lineFeed :: ps.flatMap units) = _
      rw [scan_cons fun h => absurd h (by decide), hrest]
      rfl
    | other u hreturn hfeed =>
      show scan (u :: ps.flatMap units) = _
      rw [scan_cons fun h => absurd h hreturn, hrest, ofUnit, dif_neg hreturn, dif_neg hfeed]

theorem maximal_scan (t : Text) : Maximal (scan t) := by
  fun_induction scan t with
  | case1 => exact trivial
  | case2 u => exact ⟨fun _ => nofun, trivial⟩
  | case3 u v rest h ih => exact ⟨nofun, ih⟩
  | case4 u v rest h ih =>
    refine ⟨?_, ih⟩
    intro hu hfeed
    -- a line feed comes next only if the next unit is one, and then the two are a pair
    obtain ⟨ps, hps⟩ := List.head?_eq_some_iff.mp hfeed
    have hread := flatMap_units_scan (v :: rest)
    rw [hps] at hread
    have hv : lineFeed = v := (List.cons.inj hread).1
    have hreturn : u = carriageReturn := by
      have hunits := congrArg units hu
      rw [units_ofUnit] at hunits
      exact (List.cons.inj hunits).1
    exact h ⟨hreturn, hv.symm⟩

/-- **The scan of a text is the one way to read it in pieces with breaks as long as can be.** -/
theorem scan_eq_iff {t : Text} {ps : List Piece} :
    scan t = ps ↔ ps.flatMap units = t ∧ Maximal ps := by
  constructor
  · rintro rfl
    exact ⟨flatMap_units_scan t, maximal_scan t⟩
  · rintro ⟨rfl, h⟩
    exact scan_flatMap_units h

/-! ### Normalizing -/

/-- Both replacements together leave one unit for each piece. -/
theorem normalizeBreaks_eq (t : Text) : normalizeBreaks t = (scan t).map normal := by
  unfold normalizeBreaks returnsToFeeds
  fun_induction scan t with
  | case1 => rfl
  | case2 u => simp [joinPairs]
  | case3 u v rest h ih =>
    rw [joinPairs, if_pos h, List.map_cons, List.map_cons, ih]
    rfl
  | case4 u v rest h ih => rw [joinPairs, if_neg h, List.map_cons, List.map_cons, ih, normal_ofUnit]

/-- There is one line feed for each break. -/
theorem count_normalizeBreaks (t : Text) :
    (normalizeBreaks t).count lineFeed = (scan t).countP isBreak := by
  rw [normalizeBreaks_eq, List.count, List.countP_map]
  apply List.countP_congr
  intro p _
  show (p.normal == lineFeed) = true ↔ _
  rw [beq_iff_eq, normal_eq_lineFeed_iff]

/-- A text without carriage returns is scanned unit by unit. -/
theorem normalizeBreaks_of_notMem {t : Text} (h : carriageReturn ∉ t) : normalizeBreaks t = t := by
  rw [normalizeBreaks_eq]
  induction t with
  | nil => rfl
  | cons u t ih =>
    have hu : u ≠ carriageReturn := fun hreturn => h (hreturn ▸ List.mem_cons_self)
    have ht : carriageReturn ∉ t := fun hmem => h (List.mem_cons_of_mem _ hmem)
    rw [scan_cons fun hreturn => absurd hreturn hu, List.map_cons, ih ht, normal_ofUnit, if_neg hu]

theorem normalizeBreaks_normalizeBreaks (t : Text) :
    normalizeBreaks (normalizeBreaks t) = normalizeBreaks t :=
  normalizeBreaks_of_notMem (carriageReturn_notMem_normalizeBreaks t)

end Text

namespace Buffer

open Text

/-- **A buffer normalizes line breaks as one pass from left to right does.**  The scan reads the
text in pieces without loss, its breaks are as long as they can be, and no other pieces do so.  The
text that a buffer keeps has a line feed for each break and each other unit as it is.  So it has no
carriage return, and one line more than there are breaks; normalizing it again changes nothing, and
neither does setting a buffer to the text that it has. -/
theorem normalize_onePass (t : Text) :
    (∀ ps, scan t = ps ↔ ps.flatMap Piece.units = t ∧ Piece.Maximal ps) ∧
      (ofText t).text = (scan t).map Piece.normal ∧
      carriageReturn ∉ (ofText t).text ∧
      (ofText t).lineCount = 1 + (scan t).countP Piece.isBreak ∧
      normalizeBreaks (ofText t).text = (ofText t).text ∧
      (ofText t).setText (ofText t).text = ofText t ∧
      ∀ earlier : Buffer, let b := earlier.setText t
        b.text = (scan t).map Piece.normal ∧ b.setText b.text = b := by
  have hagain : (ofText t).setText (ofText t).text = ofText t :=
    congrArg Buffer.mk (normalizeBreaks_normalizeBreaks t)
  refine ⟨fun ps => scan_eq_iff, normalizeBreaks_eq t, carriageReturn_notMem_normalizeBreaks t, ?_,
    normalizeBreaks_normalizeBreaks t, hagain, fun earlier => ⟨normalizeBreaks_eq t, hagain⟩⟩
  rw [lineCount_ofText, count_normalizeBreaks, Nat.add_comm]

/-- The line feed that the first replacement makes of a pair stays apart from the carriage return
before it. -/
example : scan [carriageReturn, carriageReturn, lineFeed] = [.loneReturn, .pair] ∧
    (ofText [carriageReturn, carriageReturn, lineFeed]).text = [lineFeed, lineFeed] :=
  ⟨rfl, rfl⟩

end Buffer

end EditorGutter
