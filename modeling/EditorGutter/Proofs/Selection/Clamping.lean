import EditorGutter.Proofs.Number.Clamping
import EditorGutter.Selection

/-!
Holding selections inside a text.

Holding a selection first inside one text and then inside another is holding it inside the shorter
one (`Selection.clamp_clamp`), and ends that are whole values come to lie in the text
(`Selection.Whole.within_clamp`).
-/
namespace EditorGutter

/-! ### Ranges -/

theorem Range.clamp_clamp (r : Range) (m n : Nat) :
    (r.clamp m).clamp n = r.clamp ((min m n : Nat) : Number) := by
  show Range.mk ((r.anchor.clampTo m).clampTo n) ((r.head.clampTo m).clampTo n) = Range.mk _ _
  rw [Number.clampTo_clampTo, Number.clampTo_clampTo]

/-- Both ends of a range are whole values. -/
def Range.Whole (r : Range) : Prop :=
  (∃ i : Int, r.anchor = (i : Number)) ∧ ∃ j : Int, r.head = (j : Number)

/-- Both ends of a range are offsets in a text of some length. -/
def Range.Within (length : Nat) (r : Range) : Prop :=
  (∃ a : Nat, a ≤ length ∧ r.anchor = (a : Number)) ∧ ∃ h : Nat, h ≤ length ∧ r.head = (h : Number)

theorem Range.Whole.within_clamp {r : Range} (h : r.Whole) (n : Nat) : (r.clamp n).Within n := by
  obtain ⟨⟨i, hi⟩, j, hj⟩ := h
  refine ⟨?_, ?_⟩
  · show ∃ a : Nat, a ≤ n ∧ r.anchor.clampTo n = _
    rw [hi]
    exact Number.exists_clampTo_intCast i n
  · show ∃ h : Nat, h ≤ n ∧ r.head.clampTo n = _
    rw [hj]
    exact Number.exists_clampTo_intCast j n

theorem Range.Within.whole {r : Range} {n : Nat} (h : r.Within n) : r.Whole := by
  obtain ⟨⟨a, -, ha⟩, b, -, hb⟩ := h
  exact ⟨⟨a, ha.trans (Number.intCast_natCast a).symm⟩, b, hb.trans (Number.intCast_natCast b).symm⟩

/-! ### Selections -/

namespace Selection

/-- A selection is its ranges and its primary index. -/
theorem eq_of_ranges {s t : Selection} (hranges : s.ranges = t.ranges)
    (hprimary : s.primaryIndex = t.primaryIndex) : s = t := by
  cases s
  cases t
  cases hranges
  cases hprimary
  rfl

/-- **Held inside two texts in turn, a selection is held inside the shorter one.** -/
theorem clamp_clamp (s : Selection) (m n : Nat) :
    (s.clamp m).clamp n = s.clamp ((min m n : Nat) : Number) := by
  refine eq_of_ranges ?_ rfl
  show (s.ranges.map _).map _ = s.ranges.map _
  rw [List.map_map]
  exact List.map_congr_left fun r _ => r.clamp_clamp m n

/-- All ends of a selection are whole values. -/
def Whole (s : Selection) : Prop := ∀ r ∈ s.ranges, r.Whole

/-- All ends of a selection are offsets in a text of some length. -/
def Within (length : Nat) (s : Selection) : Prop := ∀ r ∈ s.ranges, r.Within length

theorem Within.whole {s : Selection} {n : Nat} (h : s.Within n) : s.Whole :=
  fun r hr => (h r hr).whole

theorem Whole.within_clamp {s : Selection} (h : s.Whole) (n : Nat) : (s.clamp n).Within n := by
  intro r hr
  obtain ⟨r, hmem, rfl⟩ := List.mem_map.mp hr
  exact (h r hmem).within_clamp n

/-- No text moves the cursor at its start. -/
theorem clamp_point_zero (n : Nat) : (point 0).clamp n = point 0 := by
  refine eq_of_ranges ?_ rfl
  show [Range.mk ((0 : Number).clampTo n) ((0 : Number).clampTo n)] = [⟨0, 0⟩]
  rw [Number.zero_clampTo]

theorem within_point_zero (n : Nat) : (point 0).Within n := by
  intro r hr
  obtain rfl := List.mem_singleton.mp hr
  exact ⟨⟨0, Nat.zero_le n, rfl⟩, 0, Nat.zero_le n, rfl⟩

end Selection

end EditorGutter
