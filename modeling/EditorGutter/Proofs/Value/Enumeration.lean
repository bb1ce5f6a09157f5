import EditorGutter.Proofs.Number.DecimalDigits
import Mathlib.Data.List.Basic
import Mathlib.Data.List.Induction
import Mathlib.Data.List.Pairwise

/-!
The order in which the members of a record are enumerated.

The order is told from the names alone, as they were written with their repetitions: array indices
come first and ascend, and the other names follow as they first occurred (`Record.Before`).  The
enumeration has each name once and follows this order (`pairwise_entries`, `mem_names_entries`);
two names never tie, since no two names are the same array index.
-/
namespace EditorGutter

namespace Record

variable {α : Type} {ms : List (Text × α)} {name name' : Text}

/-! ### The table of the members -/

theorem ofList_concat (ms : List (Text × α)) (m : Text × α) :
    OrderedMap.ofList (ms ++ [m]) = (OrderedMap.ofList ms).insert m.1 m.2 := by
  rw [OrderedMap.ofList, List.foldl_concat]
  rfl

/-- The names of the table are those that were written, each at its first place. -/
theorem keys_ofList (ms : List (Text × α)) :
    (OrderedMap.ofList ms).keys = (ms.map Prod.fst).eraseDups := by
  induction ms using List.reverseRecOn with
  | nil => rfl
  | append_singleton ms m ih =>
    rw [ofList_concat, OrderedMap.keys_insert, ih, List.map_append, List.map_singleton,
      OrderedMap.eraseDups_concat]
    split_ifs <;> rfl

/-- The last member with a name decides its value. -/
theorem find?_concat (name : Text) (ms : List (Text × α)) (m : Text × α) :
    find? name (ms ++ [m]) = if m.1 = name then some m.2 else find? name ms := by
  rw [find?, ofList_concat, OrderedMap.get?_insert]
  rfl

/-- Leaving out members of other names does not change what is found at a name. -/
theorem find?_filter {p : Text → Bool} (hp : p name = true) (ms : List (Text × α)) :
    find? name (ms.filter fun m => p m.1) = find? name ms := by
  induction ms using List.reverseRecOn with
  | nil => rfl
  | append_singleton ms m ih =>
    rw [List.filter_append, List.filter_singleton, find?_concat]
    rcases hm : p m.1 with - | -
    · -- the member is left out, and it has another name
      have hne : m.1 ≠ name := by
        rintro rfl
        rw [hm] at hp
        cases hp
      rw [if_neg hne, ← ih]
      exact congrArg _ (List.append_nil _)
    · rw [← ih]
      exact find?_concat name _ m

/-! ### Array indices -/

theorem mem_insertByIndex {i : Nat} {m : Text × α} {es : List (Nat × (Text × α))}
    {e : Nat × (Text × α)} : e ∈ insertByIndex i m es ↔ e = (i, m) ∨ e ∈ es := by
  induction es with
  | nil => simp [insertByIndex]
  | cons e' rest ih =>
    rw [insertByIndex]
    split
    · exact List.mem_cons
    · rw [List.mem_cons, List.mem_cons, ih]
      exact or_left_comm

theorem mem_indexedMembers {e : Nat × (Text × α)} :
    e ∈ indexedMembers ms ↔ e.2 ∈ ms ∧ arrayIndex? e.2.1 = some e.1 := by
  induction ms with
  | nil => simp [indexedMembers]
  | cons m rest ih =>
    rw [indexedMembers, List.mem_cons]
    split
    · next i hi =>
      rw [mem_insertByIndex, ih]
      constructor
      · rintro (rfl | ⟨hmem, hindex⟩)
        · exact ⟨.inl rfl, hi⟩
        · exact ⟨.inr hmem, hindex⟩
      · rintro ⟨hm | hmem, hindex⟩
        · rw [hm, hi] at hindex
          exact .inl (Prod.ext (Option.some.inj hindex).symm hm)
        · exact .inr ⟨hmem, hindex⟩
    · next hnone =>
      rw [ih]
      constructor
      · rintro ⟨hmem, hindex⟩
        exact ⟨.inr hmem, hindex⟩
      · rintro ⟨hm | hmem, hindex⟩
        · rw [hm, hnone] at hindex
          cases hindex
        · exact ⟨hmem, hindex⟩

theorem pairwise_insertByIndex {i : Nat} (m : Text × α) {es : List (Nat × (Text × α))}
    (h : es.Pairwise fun e e' => e.1 < e'.1) (hi : ∀ e ∈ es, e.1 ≠ i) :
    (insertByIndex i m es).Pairwise fun e e' => e.1 < e'.1 := by
  induction es with
  | nil => exact List.pairwise_singleton _ _
  | cons e rest ih =>
    obtain ⟨hfirst, hrest⟩ := List.pairwise_cons.mp h
    obtain ⟨hne, hothers⟩ := List.forall_mem_cons.mp hi
    rw [insertByIndex]
    split
    · next hlt =>
      refine List.pairwise_cons.mpr ⟨?_, h⟩
      exact List.forall_mem_cons.mpr ⟨hlt, fun e' he' => Nat.lt_trans hlt (hfirst e' he')⟩
    · next hge =>
      refine List.pairwise_cons.mpr ⟨?_, ih hrest hothers⟩
      intro e' he'
      rcases mem_insertByIndex.mp he' with rfl | he'
      · exact Nat.lt_of_le_of_ne (Nat.not_lt.mp hge) hne
      · exact hfirst e' he'

/-- Distinct names have distinct indices, so these ascend strictly. -/
theorem pairwise_indexedMembers (h : (ms.map Prod.fst).Nodup) :
    (indexedMembers ms).Pairwise fun e e' => e.1 < e'.1 := by
  induction ms with
  | nil => exact List.Pairwise.nil
  | cons m rest ih =>
    obtain ⟨hfirst, hrest⟩ := List.nodup_cons.mp h
    rw [indexedMembers]
    split
    · next i hi =>
      refine pairwise_insertByIndex m (ih hrest) ?_
      rintro e he rfl
      obtain ⟨hmem, hindex⟩ := mem_indexedMembers.mp he
      exact hfirst (arrayIndex?_inj hindex hi ▸ List.mem_map.mpr ⟨_, hmem, rfl⟩)
    · exact ih hrest

/-! ### The order of enumeration -/

/-- Of the members with some names, the one with `name` is enumerated before the one with `name'`:
array indices come first and ascend, and other names follow in the order of their first places. -/
def Before (names : List Text) (name name' : Text) : Prop :=
  match arrayIndex? name, arrayIndex? name' with
  | some i, some j => i < j
  | some _, none => True
  | none, some _ => False
  | none, none => names.idxOf name < names.idxOf name'

theorem ne_of_before {names : List Text} (h : Before names name name') : name ≠ name' := by
  rintro rfl
  unfold Before at h
  rcases hindex : arrayIndex? name with - | i
  · rw [hindex] at h
    exact Nat.lt_irrefl _ h
  · rw [hindex] at h
    exact Nat.lt_irrefl _ h

theorem pairwise_eraseDups (names : List Text) :
    names.eraseDups.Pairwise fun name name' => names.idxOf name < names.idxOf name' := by
  induction names using List.reverseRecOn with
  | nil => exact List.Pairwise.nil
  | append_singleton names last ih =>
    have hold : names.eraseDups.Pairwise fun name name' =>
        (names ++ [last]).idxOf name < (names ++ [last]).idxOf name' := by
      refine ih.imp_of_mem ?_
      intro name name' hname hname' hlt
      rw [List.idxOf_append_of_mem (List.mem_eraseDups.mp hname),
        List.idxOf_append_of_mem (List.mem_eraseDups.mp hname')]
      exact hlt
    rw [OrderedMap.eraseDups_concat]
    split
    · exact hold
    · next hnew =>
      refine List.pairwise_append.mpr ⟨hold, List.pairwise_singleton _ _, ?_⟩
      intro name hname name' hname'
      obtain rfl := List.mem_singleton.mp hname'
      have hmem := List.mem_eraseDups.mp hname
      -- the new name stands behind all others
      rw [List.idxOf_append_of_mem hmem,
        List.idxOf_append_of_notMem fun h => hnew (List.mem_eraseDups.mpr h)]
      have := List.idxOf_lt_length_of_mem hmem
      omega

theorem mem_enumerate {m : Text × α} : m ∈ enumerate ms ↔ m ∈ ms := by
  rw [enumerate, List.mem_append, List.mem_map]
  constructor
  · rintro (⟨e, he, rfl⟩ | hmem)
    · exact (mem_indexedMembers.mp he).1
    · exact (List.mem_filter.mp hmem).1
  · intro hmem
    rcases hindex : arrayIndex? m.1 with - | i
    · exact .inr (List.mem_filter.mpr ⟨hmem, by rw [hindex]; rfl⟩)
    · exact .inl ⟨(i, m), mem_indexedMembers.mpr ⟨hmem, hindex⟩, rfl⟩

/-- Every name that was written is enumerated. -/
theorem mem_names_entries : name ∈ (entries ms).map Prod.fst ↔ name ∈ ms.map Prod.fst := by
  have hkeys : name ∈ (OrderedMap.ofList ms).entries.map Prod.fst ↔ name ∈ ms.map Prod.fst := by
    show name ∈ (OrderedMap.ofList ms).keys ↔ _
    rw [keys_ofList, List.mem_eraseDups]
  rw [← hkeys, List.mem_map, List.mem_map]
  simp only [entries, mem_enumerate]

/-- **Members are enumerated in the order of their names**, each name once. -/
theorem pairwise_entries (ms : List (Text × α)) :
    ((entries ms).map Prod.fst).Pairwise (Before (ms.map Prod.fst)) := by
  have hkeys : (OrderedMap.ofList ms).keys.Pairwise fun name name' =>
      (ms.map Prod.fst).idxOf name < (ms.map Prod.fst).idxOf name' := by
    rw [keys_ofList]
    exact pairwise_eraseDups _
  have hplaces := List.pairwise_map.mp hkeys
  have hnone : ∀ m ∈ namedMembers (OrderedMap.ofList ms).entries, arrayIndex? m.1 = none :=
    fun m hm => Option.isNone_iff_eq_none.mp (List.mem_filter.mp hm).2
  rw [entries, enumerate, List.pairwise_map, List.pairwise_append]
  refine ⟨?_, ?_, ?_⟩
  · -- the array indices
    rw [List.pairwise_map]
    refine (pairwise_indexedMembers (OrderedMap.ofList ms).nodup).imp_of_mem ?_
    intro e e' he he' hlt
    unfold Before
    rw [(mem_indexedMembers.mp he).2, (mem_indexedMembers.mp he').2]
    exact hlt
  · -- the other names
    refine (hplaces.sublist List.filter_sublist).imp_of_mem ?_
    intro m m' hm hm' hlt
    unfold Before
    rw [hnone m hm, hnone m' hm']
    exact hlt
  · intro m hm m' hm'
    obtain ⟨e, he, rfl⟩ := List.mem_map.mp hm
    unfold Before
    rw [(mem_indexedMembers.mp he).2, hnone m' hm']
    trivial

/-- No name is enumerated twice. -/
theorem nodup_entries (ms : List (Text × α)) : ((entries ms).map Prod.fst).Nodup :=
  (pairwise_entries ms).imp ne_of_before

/-! ### What is found -/

/-- The members that are enumerated are those that are found. -/
theorem mem_entries {a : α} : (name, a) ∈ entries ms ↔ find? name ms = some a := by
  rw [entries, mem_enumerate, OrderedMap.mem_entries_iff]
  rfl

/-- A member is found under every name that was written, and under no other. -/
theorem isSome_find? : (find? name ms).isSome ↔ name ∈ ms.map Prod.fst := by
  rw [find?, OrderedMap.get?_isSome_iff, keys_ofList, List.mem_eraseDups]

end Record

end EditorGutter
