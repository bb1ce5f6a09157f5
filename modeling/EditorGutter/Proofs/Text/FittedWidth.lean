import EditorGutter.Proofs.Text.Clusters
import EditorGutter.Proofs.Text.Fitting
import EditorGutter.Proofs.Text.Plain

/-!
How wide a fitted text is when it is measured again, padding included.

The cells of a text are counted along its code points (`displayWidth_eq_cellsFrom`), and a space
after a text is a cell more unless it joins the cluster before it, which the first space does after
a code point of the class `prepend` (`displayWidth_append_spaces`).  So a fitted text is as wide as
asked, but for one that is kept whole, is padded and ends in such a code point: it is a cell short
(`displayWidth_fitInto`).
-/
namespace EditorGutter

namespace Text

/-! ### Counting cells along the code points -/

/-- The cells of a cluster, by its code points. -/
def clusterWidth (g : List CodePoint) : Nat := (g.map CodePoint.width).foldl max 0

@[simp] theorem clusterWidth_nil : clusterWidth [] = 0 := rfl

theorem clusterWidth_cons (c : CodePoint) (g : List CodePoint) :
    clusterWidth (c :: g) = max c.width (clusterWidth g) := by
  unfold clusterWidth
  rw [List.map_cons, List.foldl_cons, Nat.max_comm, List.foldl_assoc]

/-- The cells of the cluster in progress, which has taken `m` so far, and of the clusters after
it. -/
def cellsFrom (s : ClusterState) (m : Nat) : List CodePoint → Nat
  | [] => m
  | c :: cs =>
    if s.joins c then cellsFrom (s.push c) (max m c.width) cs
    else m + cellsFrom (ClusterState.empty.push c) c.width cs

theorem cellsFrom_eq (s : ClusterState) (m : Nat) (cs : List CodePoint) :
    cellsFrom s m cs =
      max m (clusterWidth (splitFrom s cs).1) + total clusterWidth (splitFrom s cs).2 := by
  induction cs generalizing s m with
  | nil => simp [cellsFrom, splitFrom]
  | cons c cs ih =>
    rw [cellsFrom]
    by_cases hc : s.joins c = true
    · rw [if_pos hc, splitFrom_of_joins hc, ih, clusterWidth_cons, Nat.max_assoc]
    · rw [if_neg hc, splitFrom_of_not_joins hc, clusters_cons, total_cons, clusterWidth_cons, ih,
        clusterWidth_nil, Nat.max_zero]

theorem isReading_of_mem_clusters {t : Text} {g : List CodePoint}
    (h : g ∈ clusters (codePoints t)) : IsReading g := by
  have hinfix := List.infix_of_mem_flatten h
  rw [flatten_clusters] at hinfix
  exact (isReading_codePoints t).piece hinfix

theorem graphemeWidth_ofCodePoints {g : List CodePoint} (h : IsReading g) :
    graphemeWidth (ofCodePoints g) = clusterWidth g := by
  rw [graphemeWidth, codePoints_ofCodePoints h]
  rfl

theorem total_graphemeWidth_ofCodePoints {gs : List (List CodePoint)}
    (h : ∀ g ∈ gs, IsReading g) :
    total graphemeWidth (gs.map ofCodePoints) = total clusterWidth gs := by
  induction gs with
  | nil => rfl
  | cons g gs ih =>
    obtain ⟨hg, hgs⟩ := List.forall_mem_cons.mp h
    rw [List.map_cons, total_cons, total_cons, graphemeWidth_ofCodePoints hg, ih hgs]

theorem displayWidth_eq_cellsFrom (t : Text) :
    displayWidth t = cellsFrom .empty 0 (codePoints t) := by
  have hread : ∀ g ∈ clusters (codePoints t), IsReading g :=
    fun _ hg => isReading_of_mem_clusters hg
  rw [displayWidth, graphemes, total_graphemeWidth_ofCodePoints hread, cellsFrom_eq,
    splitFrom_empty, clusterWidth_nil, Nat.max_zero, Nat.zero_add]

/-! ### Cells of padding -/

theorem isSimple_space : CodePoint.IsSimple 0x20 := by decide

theorem codePoints_append_spaces (t : Text) (n : Nat) :
    codePoints (t ++ spaces n) = codePoints t ++ List.replicate n 0x20 := by
  have hcut : CutApart t (spaces n) := by
    intro u _ v hv hpair
    obtain rfl := List.eq_of_mem_replicate (List.mem_of_mem_head? hv)
    rw [Bool.and_eq_true] at hpair
    exact absurd hpair.2 (by decide)
  rw [codePoints_append hcut, codePoints_plain (plain_spaces n), spaces, List.map_replicate]
  rfl

theorem cellsFrom_simple_spaces (m n : Nat) :
    cellsFrom ClusterState.simple m (List.replicate n 0x20) = m + n := by
  induction n generalizing m with
  | zero => rfl
  | succ n ih =>
    rw [List.replicate_succ, cellsFrom, ClusterState.simple_joins isSimple_space, if_neg nofun,
      ClusterState.push_of_isSimple .empty isSimple_space, ih, CodePoint.width_space,
      Nat.add_comm 1]

/-- Padding after a cluster in progress.  The first space joins a code point of the class
`prepend`, which has a cell already. -/
theorem cellsFrom_append_spaces (s : ClusterState) (m : Nat) (cs : List CodePoint) (n : Nat)
    (h : s.last = .prepend → 1 ≤ m) :
    cellsFrom s m (cs ++ List.replicate (n + 1) 0x20) =
      cellsFrom s m cs + if lastClass s.last cs = .prepend then n else n + 1 := by
  induction cs generalizing s m with
  | nil =>
    rw [List.nil_append, List.replicate_succ, cellsFrom, cellsFrom,
      ClusterState.joins_of_isSimple s isSimple_space,
      ClusterState.push_of_isSimple s isSimple_space,
      ClusterState.push_of_isSimple .empty isSimple_space, cellsFrom_simple_spaces,
      cellsFrom_simple_spaces, CodePoint.width_space]
    show _ = m + if s.last = .prepend then n else n + 1
    by_cases hs : s.last = .prepend
    · rw [if_pos (decide_eq_true hs), if_pos hs, Nat.max_eq_left (h hs)]
    · rw [if_neg (by rwa [decide_eq_true_iff]), if_neg hs, Nat.add_comm 1]
  | cons c cs ih =>
    have hpush : ∀ s : ClusterState, (s.push c).last = .prepend → 1 ≤ c.width :=
      fun _ hlast => CodePoint.one_le_width_of_prepend hlast
    rw [List.cons_append, cellsFrom, cellsFrom, lastClass_cons]
    by_cases hc : s.joins c = true
    · rw [if_pos hc, if_pos hc]
      exact ih (s.push c) (max m c.width) fun hlast =>
        Nat.le_trans (hpush s hlast) (Nat.le_max_right m c.width)
    · rw [if_neg hc, if_neg hc, ih (ClusterState.empty.push c) c.width (hpush .empty),
        Nat.add_assoc]
      rfl

/-- The cells of a padded text: every space takes one, but for the first where it joins the last
cluster. -/
theorem displayWidth_append_spaces (t : Text) (n : Nat) :
    displayWidth (t ++ spaces (n + 1)) =
      displayWidth t + if EndsPrepended t then n else n + 1 := by
  rw [displayWidth_eq_cellsFrom, displayWidth_eq_cellsFrom, codePoints_append_spaces,
    cellsFrom_append_spaces .empty 0 _ n nofun]
  rfl

/-! ### The width of a fitted text -/

/-- What is cut after a code point of the class `prepend` starts with a control or a line break,
which takes at most one cell. -/
theorem graphemeWidth_le_one {t : Text} {k : Nat}
    (h : EndsPrepended ((graphemes t).take k).flatten) (hk : k < (graphemes t).length) :
    graphemeWidth (graphemes t)[k] ≤ 1 := by
  have hlength : k < (clusters (codePoints t)).length := by
    rwa [graphemes, List.length_map] at hk
  have hg : (splitFrom .empty (codePoints t)).2[k]? = some (clusters (codePoints t))[k] := by
    rw [splitFrom_empty]
    exact List.getElem?_eq_getElem hlength
  have hlast : lastClass .control ((splitFrom .empty (codePoints t)).1 ++
      ((splitFrom .empty (codePoints t)).2.take k).flatten) = .prepend := by
    rw [splitFrom_empty, List.nil_append, ← codePoints_flatten_take]
    exact h
  have hread := isReading_of_mem_clusters (List.getElem_mem hlength)
  have hcells := width_le_one_of_splitFrom hg hlast
  simp only [graphemes, List.getElem_map]
  rw [graphemeWidth_ofCodePoints hread]
  apply foldl_max_le (Nat.zero_le 1)
  intro n hn
  obtain ⟨c, hc, rfl⟩ := List.mem_map.mp hn
  exact hcells c hc

theorem displayWidth_flatten_take (t : Text) (k : Nat) :
    displayWidth ((graphemes t).take k).flatten = total graphemeWidth ((graphemes t).take k) := by
  rw [displayWidth, graphemes_flatten_take]

/-- A narrower text padded to a width. -/
theorem displayWidth_pad {width : Nat} {t : Text} (h : displayWidth t < width) :
    displayWidth (t ++ spaces (width - displayWidth t)) =
      if EndsPrepended t then width - 1 else width := by
  obtain ⟨n, rfl⟩ := Nat.exists_eq_add_of_lt h
  have hpadding : displayWidth t + n + 1 - displayWidth t = n + 1 := by omega
  rw [hpadding, displayWidth_append_spaces]
  split
  · rfl
  · rfl

namespace IsLongestFit

variable {width k : Nat} {t : Text}

/-- Where a cell is left before a cut, the text before it ends in no code point of the class
`prepend`. -/
theorem not_endsPrepended (hk : IsLongestFit width (graphemes t) k)
    (hcut : k < (graphemes t).length)
    (hleft : displayWidth ((graphemes t).take k).flatten < width) :
    ¬ EndsPrepended ((graphemes t).take k).flatten := by
  intro hends
  have hroom := hk.lt_add hcut
  have hcells := graphemeWidth_le_one hends hcut
  rw [displayWidth_flatten_take] at hleft
  omega

/-- What is kept of a text, padded to the width. -/
theorem displayWidth_pad_kept (hk : IsLongestFit width (graphemes t) k) :
    displayWidth (((graphemes t).take k).flatten ++
        spaces (width - displayWidth ((graphemes t).take k).flatten)) =
      if displayWidth t < width ∧ EndsPrepended t then width - 1 else width := by
  have hwhole : k = (graphemes t).length → ((graphemes t).take k).flatten = t := by
    rintro rfl
    rw [List.take_length, flatten_graphemes]
  by_cases hnarrow : displayWidth t < width
  · rw [hwhole (hk.eq_length (Nat.le_of_lt hnarrow)), displayWidth_pad hnarrow]
    simp only [hnarrow, true_and]
  · rw [if_neg fun h => hnarrow h.1]
    have hle : displayWidth ((graphemes t).take k).flatten ≤ width := by
      rw [displayWidth_flatten_take]
      exact hk.fits
    rcases Nat.lt_or_eq_of_le hle with hleft | hfull
    · -- something is cut, or the text would be narrower than the width
      have hcut : k < (graphemes t).length := by
        refine Nat.lt_of_le_of_ne hk.le_length fun hlength => ?_
        rw [hwhole hlength] at hleft
        exact hnarrow hleft
      rw [displayWidth_pad hleft, if_neg (hk.not_endsPrepended hcut hleft)]
    · rw [hfull, Nat.sub_self, spaces, List.replicate_zero, List.append_nil, hfull]

end IsLongestFit

/-- **A fitted text is as wide as asked, except after a prepended code point.**  Measured again with
its padding, it takes just so many cells, unless the whole text is narrower and ends in a code point
of the class `prepend`: the first space of the padding joins that one, and a cell is missing. -/
theorem displayWidth_fitInto (width : Nat) (t : Text) :
    ∃ r, fitInto (width : Number) t = .ok r ∧
      displayWidth r = if displayWidth t < width ∧ EndsPrepended t then width - 1 else width := by
  refine ⟨fit width t, fitInto_natCast width t, ?_⟩
  rw [fit, fitClusters, keepFitting_eq_take, ← displayWidth_flatten_take]
  exact (isLongestFit_keepFitting width (graphemes t)).displayWidth_pad_kept

/-- U+0600 takes one cell and keeps it when a space is added: fitted into two cells it takes one. -/
theorem displayWidth_fitInto_prepended :
    fitInto (2 : Nat) [0x0600] = .ok [0x0600, 0x20] ∧ displayWidth [0x0600, 0x20] = 1 := by
  refine ⟨?_, by decide +kernel⟩
  rw [fitInto_natCast]
  decide +kernel

end Text

end EditorGutter
