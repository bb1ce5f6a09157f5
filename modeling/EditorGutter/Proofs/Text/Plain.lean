import EditorGutter.Text.Width

/-!
Plain texts: printable ASCII and the marks of the gutter.

Each unit of a plain text is a cluster by itself and takes one cell (`graphemes_plain`,
`displayWidth_plain`).  So fitting a plain text cuts or pads it by units (`fit_plain`), and what
comes out is plain again, with as many units as cells (`length_fit_plain`, `plain_fit`).
-/
namespace EditorGutter

namespace CodePoint

/-- A code point that starts a new cluster next to others of its kind and takes one cell. -/
structure IsSimple (c : CodePoint) : Prop where
  graphemeClass : c.graphemeClass = .other
  conjunctClass : c.conjunctClass = .none
  width : c.width = 1

instance (c : CodePoint) : Decidable c.IsSimple :=
  decidable_of_iff (c.graphemeClass = .other ∧ c.conjunctClass = .none ∧ c.width = 1)
    ⟨fun ⟨h₁, h₂, h₃⟩ => ⟨h₁, h₂, h₃⟩, fun h => ⟨h.graphemeClass, h.conjunctClass, h.width⟩⟩

end CodePoint

namespace ClusterState

/-- The state of a cluster that consists of simple code points. -/
def simple : ClusterState := ⟨.other, .none, .none, false⟩

theorem push_of_isSimple (s : ClusterState) {c : CodePoint} (h : c.IsSimple) :
    s.push c = simple := by
  simp [push, simple, h.graphemeClass, h.conjunctClass]

/-- A simple code point joins a cluster only through what stands last in it. -/
theorem joins_of_isSimple (s : ClusterState) {c : CodePoint} (h : c.IsSimple) :
    s.joins c = decide (s.last = .prepend) := by
  have hpair : ∀ k, pairJoins k .other = decide (k = .prepend) := by
    intro k
    cases k <;> rfl
  simp [joins, h.graphemeClass, h.conjunctClass, hpair]

theorem simple_joins {c : CodePoint} (h : c.IsSimple) : simple.joins c = false := by
  rw [joins_of_isSimple simple h]
  rfl

end ClusterState

namespace Text

/-! ### Plain units -/

/-- A printable ASCII unit or one of the marks of the gutter. -/
def IsPlainUnit (u : UInt16) : Prop :=
  (0x20 ≤ u.toNat ∧ u.toNat ≤ 0x7E) ∨ u.toNat ∈ [0x25CF, 0x25B2, 0x229A]

instance (u : UInt16) : Decidable (IsPlainUnit u) := inferInstanceAs (Decidable (_ ∨ _))

/-- A text of plain units. -/
def Plain (t : Text) : Prop := ∀ u ∈ t, IsPlainUnit u

instance (t : Text) : Decidable (Plain t) := List.decidableBAll IsPlainUnit t

theorem IsPlainUnit.isSimple {u : UInt16} (h : IsPlainUnit u) : CodePoint.IsSimple u.toNat := by
  -- there are 98 of them
  have hall : ∀ c ∈ List.range' 0x20 95 ++ [0x25CF, 0x25B2, 0x229A], CodePoint.IsSimple c := by
    decide +kernel
  refine hall _ (List.mem_append.mpr ?_)
  rcases h with ⟨hlow, hhigh⟩ | hmark
  · exact .inl (List.mem_range'_1.mpr ⟨hlow, by omega⟩)
  · exact .inr hmark

theorem IsPlainUnit.isHighSurrogate {u : UInt16} (h : IsPlainUnit u) :
    isHighSurrogate u = false := by
  have hlt : u.toNat < 0xD800 := by
    rcases h with ⟨-, hhigh⟩ | hmark
    · omega
    · simp only [List.mem_cons, List.not_mem_nil, or_false] at hmark
      omega
  have hnot : ¬ (0xD800 : UInt16) ≤ u := by
    rw [UInt16.le_iff_toNat_le]
    exact Nat.not_le.mpr hlt
  simp [Text.isHighSurrogate, hnot]

/-! ### Plain texts -/

section

variable {t t' : Text}

theorem plain_nil : Plain [] := nofun

theorem plain_append (h : Plain t) (h' : Plain t') : Plain (t ++ t') := by
  intro u hu
  rcases List.mem_append.mp hu with hu | hu
  · exact h u hu
  · exact h' u hu

theorem plain_take (h : Plain t) (n : Nat) : Plain (t.take n) :=
  fun u hu => h u (List.mem_of_mem_take hu)

theorem plain_spaces (n : Nat) : Plain (spaces n) := by
  intro u hu
  rw [List.eq_of_mem_replicate hu]
  exact .inl (by decide)

theorem plain_padLeft (h : Plain t) (width : Nat) : Plain (padLeft width t) :=
  plain_append (plain_spaces _) h

/-! ### Clusters of plain texts -/

theorem codePoints_plain (h : Plain t) : codePoints t = t.map UInt16.toNat := by
  fun_induction codePoints t with
  | case1 => rfl
  | case2 u => rfl
  | case3 u v rest hpair ih =>
    have hu := (h u List.mem_cons_self).isHighSurrogate
    rw [hu] at hpair
    cases hpair
  | case4 u v rest hpair ih =>
    rw [ih fun w hw => h w (List.mem_cons_of_mem _ hw)]
    rfl

/-- Simple code points split into one cluster each. -/
theorem splitFrom_simple {cs : List CodePoint} (h : ∀ c ∈ cs, c.IsSimple) :
    splitFrom ClusterState.simple cs = ([], cs.map fun c => [c]) := by
  induction cs with
  | nil => rfl
  | cons c cs ih =>
    obtain ⟨hc, hcs⟩ := List.forall_mem_cons.mp h
    rw [splitFrom, ClusterState.simple_joins hc, ClusterState.push_of_isSimple .empty hc, ih hcs]
    rfl

theorem clusters_simple {cs : List CodePoint} (h : ∀ c ∈ cs, c.IsSimple) :
    clusters cs = cs.map fun c => [c] := by
  rcases cs with - | ⟨c, cs⟩
  · rfl
  · obtain ⟨hc, hcs⟩ := List.forall_mem_cons.mp h
    rw [clusters, ClusterState.push_of_isSimple .empty hc, splitFrom_simple hcs]
    rfl

/-- The clusters of a plain text are its units. -/
theorem graphemes_plain (h : Plain t) : graphemes t = t.map fun u => [u] := by
  have hsimple : ∀ c ∈ t.map UInt16.toNat, CodePoint.IsSimple c := by
    intro c hc
    obtain ⟨u, hu, rfl⟩ := List.mem_map.mp hc
    exact (h u hu).isSimple
  rw [graphemes, codePoints_plain h, clusters_simple hsimple, List.map_map, List.map_map]
  apply List.map_congr_left
  intro u _
  show ofCodePoints [u.toNat] = [u]
  rw [ofCodePoints, List.flatMap_singleton, ofCodePoint_unit]

theorem graphemeWidth_unit {u : UInt16} (h : IsPlainUnit u) : graphemeWidth [u] = 1 := by
  show max 0 (CodePoint.width u.toNat) = 1
  rw [h.isSimple.width]
  rfl

/-- Units that take one cell each add up to their number. -/
theorem total_graphemeWidth_units (h : Plain t) :
    total graphemeWidth (t.map fun u => [u]) = t.length := by
  induction t with
  | nil => rfl
  | cons u rest ih =>
    obtain ⟨hu, hrest⟩ := List.forall_mem_cons.mp h
    rw [List.map_cons, total_cons, graphemeWidth_unit hu, ih hrest, List.length_cons, Nat.add_comm]

/-- A plain text takes as many cells as it has units. -/
theorem displayWidth_plain (h : Plain t) : displayWidth t = t.length := by
  rw [displayWidth, graphemes_plain h, total_graphemeWidth_units h]

/-! ### Fitting plain texts -/

theorem keepFitting_units (h : Plain t) (room : Nat) :
    keepFitting room (t.map fun u => [u]) = (t.take room).map fun u => [u] := by
  induction t generalizing room with
  | nil => simp [keepFitting]
  | cons u rest ih =>
    obtain ⟨hu, hrest⟩ := List.forall_mem_cons.mp h
    rw [List.map_cons, keepFitting, graphemeWidth_unit hu]
    rcases room with - | room
    · -- no room is left, so neither side keeps anything
      rfl
    · rw [if_pos (Nat.le_add_left 1 room), Nat.add_sub_cancel, ih hrest]
      rfl

/-- A plain text is cut and padded by units. -/
theorem fit_plain (h : Plain t) (width : Nat) :
    fit width t = t.take width ++ spaces (width - (t.take width).length) := by
  rw [fit, graphemes_plain h, fitClusters, keepFitting_units h, ← List.flatMap_def,
    List.flatMap_singleton', total_graphemeWidth_units (plain_take h width)]

theorem length_fit_plain (h : Plain t) (width : Nat) : (fit width t).length = width := by
  rw [fit_plain h, List.length_append, spaces, List.length_replicate]
  have := List.length_take_le width t
  omega

theorem plain_fit (h : Plain t) (width : Nat) : Plain (fit width t) := by
  rw [fit_plain h]
  exact plain_append (plain_take h width) (plain_spaces _)

end

end Text

end EditorGutter
