import EditorGutter.Text.Width

/-!
What is kept of a text that is fitted into a count of cells.

Fitting keeps as many leading clusters as fit (`IsLongestFit`), whichever way the text was split,
and pads them to the width.  The padding cannot fail, since what is kept never takes more cells than
there are (`fitClustersInto_natCast`).  A cluster takes at most two cells, so at most one cell is
padded where something was cut (`IsLongestFit.padding_le_one`).
-/
namespace EditorGutter

namespace Text

variable {width : Nat} {gs : List Text}

/-! ### Cells of a cluster -/

theorem foldl_max_le {cells : List Nat} {m n : Nat} (hm : m ≤ n) (h : ∀ c ∈ cells, c ≤ n) :
    cells.foldl max m ≤ n := by
  induction cells generalizing m with
  | nil => exact hm
  | cons c cells ih =>
    obtain ⟨hc, hcells⟩ := List.forall_mem_cons.mp h
    exact ih (Nat.max_le.mpr ⟨hm, hc⟩) hcells

theorem graphemeWidth_le_two (g : Text) : graphemeWidth g ≤ 2 := by
  apply foldl_max_le (Nat.zero_le 2)
  intro n hn
  obtain ⟨c, -, rfl⟩ := List.mem_map.mp hn
  exact CodePoint.width_le_two c

/-! ### The longest fit -/

/-- So many leading clusters take at most `width` cells, and no more of them do. -/
structure IsLongestFit (width : Nat) (gs : List Text) (k : Nat) : Prop where
  le_length : k ≤ gs.length
  fits : total graphemeWidth (gs.take k) ≤ width
  longest : ∀ j ≤ gs.length, total graphemeWidth (gs.take j) ≤ width → j ≤ k

instance (width : Nat) (gs : List Text) (k : Nat) : Decidable (IsLongestFit width gs k) :=
  decidable_of_iff
    (k ≤ gs.length ∧ total graphemeWidth (gs.take k) ≤ width ∧
      ∀ j ≤ gs.length, total graphemeWidth (gs.take j) ≤ width → j ≤ k)
    ⟨fun ⟨h₁, h₂, h₃⟩ => ⟨h₁, h₂, h₃⟩, fun h => ⟨h.le_length, h.fits, h.longest⟩⟩

theorem total_take_succ {k : Nat} (h : k < gs.length) :
    total graphemeWidth (gs.take (k + 1)) =
      total graphemeWidth (gs.take k) + graphemeWidth gs[k] := by
  rw [List.take_succ_eq_append_getElem h, total_append, total_cons, total_nil, Nat.add_zero]

namespace IsLongestFit

variable {k : Nat}

theorem unique {k' : Nat} (hk : IsLongestFit width gs k) (hk' : IsLongestFit width gs k') :
    k = k' :=
  Nat.le_antisymm (hk'.longest k hk.le_length hk.fits) (hk.longest k' hk'.le_length hk'.fits)

/-- A text that fits is kept whole. -/
theorem eq_length (hk : IsLongestFit width gs k) (h : total graphemeWidth gs ≤ width) :
    k = gs.length := by
  have hfits : total graphemeWidth (gs.take gs.length) ≤ width := by
    rwa [List.take_length]
  exact Nat.le_antisymm hk.le_length (hk.longest _ (Nat.le_refl _) hfits)

/-- The first cluster that is cut has no room. -/
theorem lt_add (hk : IsLongestFit width gs k) (h : k < gs.length) :
    width < total graphemeWidth (gs.take k) + graphemeWidth gs[k] := by
  apply Nat.lt_of_not_le
  intro hle
  rw [← total_take_succ h] at hle
  exact Nat.not_succ_le_self k (hk.longest (k + 1) h hle)

theorem padding_le_one (hk : IsLongestFit width gs k) (h : k < gs.length) :
    width - total graphemeWidth (gs.take k) ≤ 1 := by
  have hcut := hk.lt_add h
  have htwo := graphemeWidth_le_two gs[k]
  omega

/-- What fits into a width is a beginning of what fits into a larger one. -/
theorem take_prefix_take {width' k' : Nat} (hk : IsLongestFit width gs k)
    (hk' : IsLongestFit width' gs k') (h : width ≤ width') : gs.take k <+: gs.take k' :=
  List.take_prefix_take_left (hk'.longest k hk.le_length (Nat.le_trans hk.fits h))

end IsLongestFit

theorem le_length_keepFitting {j : Nat} (hj : j ≤ gs.length)
    (h : total graphemeWidth (gs.take j) ≤ width) : j ≤ (keepFitting width gs).length := by
  induction gs generalizing width j with
  | nil => exact hj
  | cons g gs ih =>
    rcases j with - | j
    · exact Nat.zero_le _
    · rw [List.take_succ_cons, total_cons] at h
      have hg : graphemeWidth g ≤ width := by omega
      rw [keepFitting, if_pos hg, List.length_cons]
      exact Nat.succ_le_succ (ih (Nat.le_of_succ_le_succ hj) (by omega))

theorem keepFitting_eq_take (width : Nat) (gs : List Text) :
    keepFitting width gs = gs.take (keepFitting width gs).length := by
  rw [← List.prefix_iff_eq_take]
  exact keepFitting_prefix width gs

/-- The clusters that are kept are the longest fit. -/
theorem isLongestFit_keepFitting (width : Nat) (gs : List Text) :
    IsLongestFit width gs (keepFitting width gs).length where
  le_length := by
    have hprefix := keepFitting_prefix width gs
    exact hprefix.length_le
  fits := by
    rw [← keepFitting_eq_take]
    exact total_keepFitting_le width gs
  longest := fun _ hj h => le_length_keepFitting hj h

/-! ### Fitting into a count of cells -/

theorem spacesFor_natCast (n : Nat) : spacesFor (n : Number) = .ok (spaces n) := by
  have hn : (0 : Rat) ≤ (n : Rat) := Rat.natCast_nonneg
  have hnot : ¬ (n : Rat) ≤ -1 := fun h => absurd (Rat.le_trans hn h) (by decide)
  show (if (n : Rat) ≤ -1 then .error (.range (.repeatCount n))
    else .ok (spaces (n : Rat).floor.toNat)) = Except.ok (spaces n)
  rw [if_neg hnot, Number.toNat_floor_natCast]

/-- What the scan keeps after some cells are used is what fits into the others. -/
theorem keepWithin_natCast {used : Nat} (h : used ≤ width) (gs : List Text) :
    keepWithin (width : Number) used gs =
      (keepFitting (width - used) gs,
        used + total graphemeWidth (keepFitting (width - used) gs)) := by
  induction gs generalizing used with
  | nil => rfl
  | cons g gs ih =>
    rw [keepWithin, keepFitting]
    by_cases hg : graphemeWidth g ≤ width - used
    · have hroom : ¬ (width : Number) < ((used + graphemeWidth g : Nat) : Number) := by
        rw [Number.natCast_lt_natCast]
        omega
      rw [if_neg hroom, if_pos hg, ih (by omega), Nat.sub_add_eq, total_cons, Nat.add_assoc]
    · have hroom : (width : Number) < ((used + graphemeWidth g : Nat) : Number) := by
        rw [Number.natCast_lt_natCast]
        omega
      rw [if_pos hroom, if_neg hg]
      rfl

/-- Into a count of cells the clusters of any split can be fitted. -/
theorem fitClustersInto_natCast (width : Nat) (gs : List Text) :
    fitClustersInto (width : Number) gs = .ok (fitClusters width gs) := by
  have hle := total_keepFitting_le width gs
  have hwidth : (width : Number) ≤ (width : Number) := Number.natCast_le_natCast.2 (Nat.le_refl _)
  rw [fitClustersInto, keepWithin_natCast (Nat.zero_le width), Nat.sub_zero, Nat.zero_add]
  show (spacesFor ((width : Number).moveBy width _)).map _ = _
  rw [Number.moveBy_neg hle hwidth, spacesFor_natCast]
  rfl

/-- A count of cells can always be fitted into. -/
theorem fitInto_natCast (n : Nat) (t : Text) : fitInto (n : Number) t = .ok (fit n t) :=
  fitClustersInto_natCast n (graphemes t)

/-- **Fitting keeps the longest beginning of whole clusters that fits**, however the text was split,
and pads it with a space for every cell that is left.  It never fails for a count of cells.  What is
cut starts with a cluster that has no room, so at most one cell is left before it, and a larger
width keeps no less. -/
theorem fitClustersInto_longest (width : Nat) (gs : List Text) :
    ∃ k, IsLongestFit width gs k ∧
      fitClustersInto (width : Number) gs =
        .ok ((gs.take k).flatten ++ spaces (width - total graphemeWidth (gs.take k))) ∧
      (∀ t, graphemes t = gs → t = gs.flatten ∧ [] ∉ gs ∧
        fitInto (width : Number) t = fitClustersInto (width : Number) gs) ∧
      (∀ g ∈ gs[k]?, width < total graphemeWidth (gs.take k) + graphemeWidth g) ∧
      (k < gs.length → width - total graphemeWidth (gs.take k) ≤ 1) ∧
      ∀ width' k', width ≤ width' → IsLongestFit width' gs k' → gs.take k <+: gs.take k' := by
  have hk := isLongestFit_keepFitting width gs
  refine ⟨_, hk, ?fitted, ?split, ?cut, hk.padding_le_one, ?wider⟩
  case fitted =>
    rw [fitClustersInto_natCast, fitClusters, ← keepFitting_eq_take]
  case split =>
    rintro t rfl
    exact ⟨(flatten_graphemes t).symm, graphemes_ne_nil t, rfl⟩
  case cut =>
    intro g hg
    obtain ⟨hlt, rfl⟩ := List.getElem?_eq_some_iff.mp hg
    exact hk.lt_add hlt
  case wider =>
    intro width' k' hle hk'
    exact hk.take_prefix_take hk' hle

/-- Four cells for an accented letter and three ideographs: the letter and the first ideograph are
kept, and a cell is padded. -/
theorem fitClustersInto_longest_straddling :
    let t := ofString "e\u0301中文字"
    let gs := graphemes t
    gs.length = 4 ∧ IsLongestFit 4 gs 2 ∧ IsLongestFit 5 gs 3 ∧
      fitInto (4 : Nat) t = .ok (ofString "e\u0301中 ") ∧
      4 - total graphemeWidth (gs.take 2) ≤ 1 ∧ gs.take 2 <+: gs.take 3 := by
  intro t gs
  have hlength : gs.length = 4 := by decide +kernel
  have hfour : IsLongestFit 4 gs 2 := by decide +kernel
  have hfive : IsLongestFit 5 gs 3 := by decide +kernel
  obtain ⟨k, hk, hfitted, hsplit, -, hpadding, hwider⟩ := fitClustersInto_longest 4 gs
  obtain rfl : k = 2 := hk.unique hfour
  have htext : (gs.take 2).flatten ++ spaces (4 - total graphemeWidth (gs.take 2)) =
      ofString "e\u0301中 " := by
    decide +kernel
  have hfit : fitInto (4 : Nat) t = .ok (ofString "e\u0301中 ") := by
    rw [(hsplit t rfl).2.2, hfitted, htext]
  exact ⟨hlength, hfour, hfive, hfit, hpadding (by rw [hlength]; decide),
    hwider 5 3 (by decide) hfive⟩

end Text

end EditorGutter
