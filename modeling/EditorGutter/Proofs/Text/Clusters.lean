import EditorGutter.Proofs.Text.CodePoints
import EditorGutter.Text.Width
import Mathlib.Data.List.Basic

/-!
The clusters of a beginning of a text.

What is kept of a text after some of its clusters is split again into the same clusters
(`graphemes_flatten_take`), so cutting between clusters changes none of them.  A code point of the
class `prepend` holds on to whatever follows, unless that is a control or a line break; so a cluster
that starts right after one has only narrow code points (`width_le_one_of_splitFrom`).
-/
namespace EditorGutter

/-! ### Classes and cells -/

namespace CodePoint

/-- Ranges that do not meet have no code point in common. -/
theorem not_inRanges_of_apart {ranges ranges' : List (Nat × Nat)} {c : Nat}
    (hasc : ranges.Pairwise fun a b => a.1 ≤ b.1) (hasc' : ranges'.Pairwise fun a b => a.1 ≤ b.1)
    (hapart : ∀ r ∈ ranges, ∀ r' ∈ ranges', r.2 < r'.1 ∨ r'.2 < r.1)
    (hc : inRanges ranges c = true) : ¬ inRanges ranges' c = true := by
  intro hc'
  obtain ⟨r, hr, hlow, hhigh⟩ := (inRanges_iff hasc).mp hc
  obtain ⟨r', hr', hlow', hhigh'⟩ := (inRanges_iff hasc').mp hc'
  rcases hapart r hr r' hr' with hlt | hlt
  · exact Nat.lt_irrefl _ (Nat.lt_of_le_of_lt (Nat.le_trans hlow' hhigh) hlt)
  · exact Nat.lt_irrefl _ (Nat.lt_of_le_of_lt (Nat.le_trans hlow hhigh') hlt)

theorem eq_of_graphemeClass_cr {c : CodePoint} (h : c.graphemeClass = .cr) : c = 0x0D := by
  simp only [graphemeClass, ite_eq_iff, reduceCtorEq, and_false, or_false, and_true] at h
  exact h

theorem eq_of_graphemeClass_lf {c : CodePoint} (h : c.graphemeClass = .lf) : c = 0x0A := by
  simp only [graphemeClass, ite_eq_iff, reduceCtorEq, and_false, false_or, or_false, and_true] at h
  exact h.2

theorem inRanges_of_graphemeClass_control {c : CodePoint} (h : c.graphemeClass = .control) :
    inRanges controlRanges c = true := by
  simp only [graphemeClass, ite_eq_iff, reduceCtorEq, and_false, false_or, or_false, and_true] at h
  obtain ⟨-, -, -, hc⟩ := h
  exact hc

theorem inRanges_of_graphemeClass_prepend {c : CodePoint} (h : c.graphemeClass = .prepend) :
    inRanges prependRanges c = true := by
  simp only [graphemeClass, ite_eq_iff, reduceCtorEq, and_false, false_or, or_false, and_true] at h
  obtain ⟨-, -, -, -, -, -, hc⟩ := h
  exact hc

/-- A code point of the class `prepend` can be seen. -/
theorem one_le_width_of_prepend {c : CodePoint} (h : c.graphemeClass = .prepend) :
    1 ≤ c.width := by
  have hc := inRanges_of_graphemeClass_prepend h
  obtain ⟨r, hr, hle, -⟩ := (inRanges_iff (by decide)).mp hc
  have hmin : ∀ r ∈ prependRanges, 127 ≤ r.1 := by decide
  have hascii : 127 ≤ c := Nat.le_trans (hmin r hr) hle
  have hzero : ¬ inRanges zeroWidthRanges c = true :=
    not_inRanges_of_apart (by decide) (by decide) (by decide) hc
  unfold width
  rw [if_neg (Nat.not_lt.mpr (Nat.le_trans (by decide) hascii)), if_neg (Nat.not_lt.mpr hascii),
    if_neg hzero]
  split
  · decide
  · decide

end CodePoint

/-! ### Controls and line breaks -/

/-- The classes of controls and line breaks, before and after which a cluster breaks, except between
a carriage return and a line feed. -/
def GraphemeClass.Breaks (k : GraphemeClass) : Prop := k = .cr ∨ k = .lf ∨ k = .control

/-- A control or a line break takes at most one cell. -/
theorem CodePoint.width_le_one_of_breaks {c : CodePoint} (h : c.graphemeClass.Breaks) :
    c.width ≤ 1 := by
  rcases h with hcr | hlf | hcontrol
  · rw [eq_of_graphemeClass_cr hcr]
    decide
  · rw [eq_of_graphemeClass_lf hlf]
    decide
  · have hc := inRanges_of_graphemeClass_control hcontrol
    have hpictograph : ¬ inRanges widePictographRanges c = true :=
      not_inRanges_of_apart (by decide) (by decide) (by decide +kernel) hc
    have hscript : ¬ inRanges wideScriptRanges c = true :=
      not_inRanges_of_apart (by decide) (by decide) (by decide) hc
    have hwide : ¬ (inRanges widePictographRanges c || inRanges wideScriptRanges c) = true := by
      rw [Bool.or_eq_true]
      exact not_or.mpr ⟨hpictograph, hscript⟩
    unfold width
    rw [if_neg hwide]
    repeat' split
    all_goals decide

namespace ClusterState

/-- The state of a cluster that is a control or a line break. -/
structure AtBreak (s : ClusterState) : Prop where
  last : s.last.Breaks
  conjunct : s.conjunct ≠ .linked
  pictograph : s.pictograph ≠ .joined
  oddRegionals : s.oddRegionals = false

variable {s : ClusterState} {c : CodePoint}

theorem empty_joins (c : CodePoint) : empty.joins c = false := by
  have hpair : ∀ k, pairJoins .control k = false := by
    intro k
    cases k <;> rfl
  simp [joins, empty, hpair]

theorem atBreak_push_empty (h : c.graphemeClass.Breaks) : (empty.push c).AtBreak where
  last := h
  conjunct := by
    unfold push
    cases c.conjunctClass <;> nofun
  pictograph := by
    unfold push
    rcases h with h | h | h <;> rw [h] <;> nofun
  oddRegionals := by
    unfold push
    rcases h with h | h | h <;> rw [h] <;> rfl

theorem atBreak_push_lineFeed (s : ClusterState) : (s.push 0x0A).AtBreak where
  last := .inr (.inl rfl)
  conjunct := nofun
  pictograph := nofun
  oddRegionals := rfl

/-- Only a line feed joins such a cluster. -/
theorem AtBreak.eq_of_joins (h : s.AtBreak) (hc : s.joins c = true) : c = 0x0A := by
  have hpair : ∀ k k', GraphemeClass.Breaks k → pairJoins k k' = true → k' = .lf := by
    rintro k k' (rfl | rfl | rfl) hjoins
    all_goals cases k' <;> simp_all [pairJoins]
  simp only [joins, h.conjunct, h.pictograph, h.oddRegionals, decide_false, Bool.false_and,
    Bool.or_false] at hc
  exact CodePoint.eq_of_graphemeClass_lf (hpair _ _ h.last hc)

/-- What stands after a code point of the class `prepend` and does not join it is a control or a
line break. -/
theorem breaks_of_prepend (h : s.last = .prepend) (hc : s.joins c = false) :
    c.graphemeClass.Breaks := by
  have hpair : ∀ k, pairJoins .prepend k = false → k.Breaks := by
    intro k hk
    cases k <;> simp_all [GraphemeClass.Breaks, pairJoins]
  simp only [joins, h, Bool.or_eq_false_iff] at hc
  exact hpair _ hc.1.1.1

end ClusterState

namespace Text

/-! ### Splitting -/

theorem splitFrom_of_joins {s : ClusterState} {c : CodePoint} (h : s.joins c = true)
    (cs : List CodePoint) :
    splitFrom s (c :: cs) = (c :: (splitFrom (s.push c) cs).1, (splitFrom (s.push c) cs).2) := by
  rw [splitFrom, if_pos h]

theorem splitFrom_of_not_joins {s : ClusterState} {c : CodePoint} (h : ¬ s.joins c = true)
    (cs : List CodePoint) : splitFrom s (c :: cs) = ([], clusters (c :: cs)) := by
  rw [splitFrom, if_neg h]
  rfl

theorem clusters_cons (c : CodePoint) (cs : List CodePoint) :
    clusters (c :: cs) =
      (c :: (splitFrom (ClusterState.empty.push c) cs).1) ::
        (splitFrom (ClusterState.empty.push c) cs).2 := rfl

/-- Nothing joins the empty cluster. -/
theorem splitFrom_empty (cs : List CodePoint) : splitFrom .empty cs = ([], clusters cs) := by
  rcases cs with - | ⟨c, cs⟩
  · rfl
  · exact splitFrom_of_not_joins (by rw [ClusterState.empty_joins]; nofun) cs

/-! ### Splitting a beginning -/

/-- The rest of the cluster in progress and the next `n` clusters are split like before when nothing
follows them. -/
theorem splitFrom_take (s : ClusterState) (cs : List CodePoint) (n : Nat) :
    splitFrom s ((splitFrom s cs).1 ++ ((splitFrom s cs).2.take n).flatten) =
      ((splitFrom s cs).1, (splitFrom s cs).2.take n) := by
  induction cs generalizing s n with
  | nil => simp [splitFrom]
  | cons c cs ih =>
    by_cases hc : s.joins c = true
    · rw [splitFrom_of_joins hc, List.cons_append, splitFrom_of_joins hc, ih]
    · rw [splitFrom_of_not_joins hc, List.nil_append]
      rcases n with - | n
      · rfl
      · rw [clusters_cons, List.take_succ_cons, List.flatten_cons, List.cons_append,
          splitFrom_of_not_joins hc, clusters_cons, ih]

theorem clusters_flatten_take (cs : List CodePoint) (n : Nat) :
    clusters ((clusters cs).take n).flatten = (clusters cs).take n := by
  have h := splitFrom_take .empty cs n
  rw [splitFrom_empty cs, List.nil_append, splitFrom_empty] at h
  exact congrArg Prod.snd h

theorem flatten_take_clusters_prefix (cs : List CodePoint) (n : Nat) :
    ((clusters cs).take n).flatten <+: cs := by
  refine ⟨((clusters cs).drop n).flatten, ?_⟩
  rw [← List.flatten_append, List.take_append_drop, flatten_clusters]

/-- A number of clusters of a text are read as the code points that they were split from. -/
theorem codePoints_flatten_take (t : Text) (n : Nat) :
    codePoints ((graphemes t).take n).flatten = ((clusters (codePoints t)).take n).flatten := by
  have hbegin := flatten_take_clusters_prefix (codePoints t) n
  rw [graphemes, ← List.map_take, ofCodePoints_flatten]
  exact codePoints_ofCodePoints ((isReading_codePoints t).piece hbegin.isInfix)

/-- Cutting between clusters changes none of them. -/
theorem graphemes_flatten_take (t : Text) (n : Nat) :
    graphemes ((graphemes t).take n).flatten = (graphemes t).take n := by
  rw [graphemes, codePoints_flatten_take, clusters_flatten_take, List.map_take]
  rfl

/-! ### After a prepended code point -/

/-- The class of the last of some code points, `k` if there are none. -/
def lastClass (k : GraphemeClass) (cs : List CodePoint) : GraphemeClass :=
  (cs.getLast?.map CodePoint.graphemeClass).getD k

theorem lastClass_cons (k : GraphemeClass) (c : CodePoint) (cs : List CodePoint) :
    lastClass k (c :: cs) = lastClass c.graphemeClass cs := by
  unfold lastClass
  rw [List.getLast?_cons]
  cases cs.getLast? <;> rfl

/-- The text ends in a code point that whatever is written next joins, unless it breaks. -/
def EndsPrepended (t : Text) : Prop := lastClass .control (codePoints t) = .prepend

instance (t : Text) : Decidable (EndsPrepended t) := inferInstanceAs (Decidable (_ = _))

/-- What joins a control or a line break is narrow like them. -/
theorem width_le_one_of_atBreak {s : ClusterState} (h : s.AtBreak) (cs : List CodePoint) :
    ∀ c ∈ (splitFrom s cs).1, c.width ≤ 1 := by
  induction cs generalizing s with
  | nil => nofun
  | cons c cs ih =>
    by_cases hc : s.joins c = true
    · rw [splitFrom_of_joins hc]
      obtain rfl := h.eq_of_joins hc
      exact List.forall_mem_cons.mpr ⟨by decide, ih (s.atBreak_push_lineFeed)⟩
    · rw [splitFrom_of_not_joins hc]
      nofun

/-- A cluster that is split off right after a code point of the class `prepend` starts with a
control or a line break. -/
theorem width_le_one_of_splitFrom {s : ClusterState} {cs g : List CodePoint} {n : Nat}
    (hg : (splitFrom s cs).2[n]? = some g)
    (h : lastClass s.last ((splitFrom s cs).1 ++ ((splitFrom s cs).2.take n).flatten) = .prepend) :
    ∀ c ∈ g, c.width ≤ 1 := by
  induction cs generalizing s n with
  | nil => cases hg
  | cons c cs ih =>
    by_cases hc : s.joins c = true
    · rw [splitFrom_of_joins hc] at hg h
      rw [List.cons_append, lastClass_cons] at h
      exact ih hg h
    · rw [splitFrom_of_not_joins hc, clusters_cons] at hg h
      rcases n with - | n
      · -- the cluster starts with `c`, which does not join a code point of the class `prepend`
        obtain rfl := Option.some.inj hg
        have hbreaks := ClusterState.breaks_of_prepend h (Bool.not_eq_true _ ▸ hc)
        have hcurrent := width_le_one_of_atBreak (ClusterState.atBreak_push_empty hbreaks) cs
        exact List.forall_mem_cons.mpr ⟨CodePoint.width_le_one_of_breaks hbreaks, hcurrent⟩
      · rw [List.nil_append, List.take_succ_cons, List.flatten_cons, List.cons_append,
          lastClass_cons] at h
        exact ih hg h

end Text

end EditorGutter
