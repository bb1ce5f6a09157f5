/-!
Tables that remember the order in which their keys were first set.

Setting a key that is present replaces its value and keeps its place; a new key goes to the end;
a key that is removed and set again goes to the end.  The keys of a table are distinct by
construction.  `get?_insert`, `keys_insert` and `keys_erase` say what the operations do to the
two views `get?` and `keys`.
-/
namespace EditorGutter

/-- A table with distinct keys in the order of their first setting. -/
structure OrderedMap (κ α : Type) where
  entries : List (κ × α)
  nodup : (entries.map Prod.fst).Nodup
  deriving DecidableEq

namespace OrderedMap

variable {κ α β : Type} [DecidableEq κ]

/-! ### Operations on entries -/

/-- The value at a key. -/
def lookupIn (k : κ) : List (κ × α) → Option α
  | [] => none
  | (k', a) :: rest => if k' = k then some a else lookupIn k rest

/-- Replaces the value at a key, or adds the key at the end. -/
def insertIn (k : κ) (a : α) : List (κ × α) → List (κ × α)
  | [] => [(k, a)]
  | (k', b) :: rest => if k' = k then (k, a) :: rest else (k', b) :: insertIn k a rest

theorem keys_insertIn (k : κ) (a : α) (es : List (κ × α)) :
    (insertIn k a es).map Prod.fst =
      if k ∈ es.map Prod.fst then es.map Prod.fst else es.map Prod.fst ++ [k] := by
  induction es with
  | nil => simp [insertIn]
  | cons e es ih =>
    obtain ⟨k', b⟩ := e
    by_cases h : k' = k
    · simp [insertIn, h]
    · have h' : ¬ k = k' := fun e => h e.symm
      simp only [insertIn, h, ↓reduceIte, List.map_cons, ih, List.mem_cons, h', false_or]
      split <;> simp

theorem nodup_insertIn {k : κ} {a : α} {es : List (κ × α)} (h : (es.map Prod.fst).Nodup) :
    ((insertIn k a es).map Prod.fst).Nodup := by
  rw [keys_insertIn]
  split
  · exact h
  · next hk =>
    rw [List.nodup_append]
    refine ⟨h, by simp, ?_⟩
    intro x hx y hy e
    simp only [List.mem_singleton] at hy
    exact hk (hy ▸ e ▸ hx)

/-- A new key goes to the end. -/
theorem insertIn_of_notMem {k : κ} {es : List (κ × α)} (h : k ∉ es.map Prod.fst) (a : α) :
    insertIn k a es = es ++ [(k, a)] := by
  induction es with
  | nil => rfl
  | cons e es ih =>
    obtain ⟨k', b⟩ := e
    have hfirst : ¬ k' = k := fun e => h (e ▸ List.mem_cons_self)
    rw [insertIn, if_neg hfirst, ih fun hmem => h (List.mem_cons_of_mem _ hmem)]
    rfl

theorem lookupIn_insertIn (k k' : κ) (a : α) (es : List (κ × α)) :
    lookupIn k' (insertIn k a es) = if k = k' then some a else lookupIn k' es := by
  induction es with
  | nil => simp [insertIn, lookupIn]
  | cons e es ih =>
    obtain ⟨k₀, b⟩ := e
    by_cases h : k₀ = k
    · subst h
      simp only [insertIn, ↓reduceIte, lookupIn]
      split <;> rfl
    · simp only [insertIn, h, ↓reduceIte, lookupIn, ih]
      by_cases h' : k₀ = k'
      · subst h'
        have : ¬ k = k₀ := fun e => h e.symm
        simp [this]
      · simp [h']

/-! ### Tables -/

/-- The table without entries. -/
def empty : OrderedMap κ α := ⟨[], List.nodup_nil⟩

instance : Inhabited (OrderedMap κ α) := ⟨empty⟩

/-- The value at a key. -/
def get? (m : OrderedMap κ α) (k : κ) : Option α := lookupIn k m.entries

/-- The keys in order. -/
def keys (m : OrderedMap κ α) : List κ := m.entries.map Prod.fst

/-- The table with the value at a key set. -/
def insert (m : OrderedMap κ α) (k : κ) (a : α) : OrderedMap κ α :=
  ⟨insertIn k a m.entries, nodup_insertIn m.nodup⟩

/-- The table with a key set unless it is present. -/
def insertNew (m : OrderedMap κ α) (k : κ) (a : α) : OrderedMap κ α :=
  if (m.get? k).isSome then m else m.insert k a

/-- The table without a key. -/
def erase (m : OrderedMap κ α) (k : κ) : OrderedMap κ α :=
  ⟨m.entries.filter fun e => e.1 ≠ k, m.nodup.sublist (List.filter_sublist.map _)⟩

/-- The table with every value changed by `f`. -/
def mapValues (f : α → β) (m : OrderedMap κ α) : OrderedMap κ β :=
  ⟨m.entries.map fun e => (e.1, f e.2), by simpa [Function.comp_def] using m.nodup⟩

/-- Sets the value at each key to what `f` makes of it, going through the entries from position `i`
on while the table changes; at most `fuel` of them are visited. -/
def updateFrom (f : α → α) : Nat → Nat → OrderedMap κ α → OrderedMap κ α
  | 0, _, m => m
  | fuel + 1, i, m =>
    match m.entries[i]? with
    | some (k, a) => updateFrom f fuel (i + 1) (m.insert k (f a))
    | none => m

/-- The table with the value at each key replaced in place.  Setting a key that is present adds no
entry, so there are only as many to visit as at first (`updateFrom_eq_mapValues`). -/
def updateEach (f : α → α) (m : OrderedMap κ α) : OrderedMap κ α :=
  updateFrom f m.entries.length 0 m

/-- The table that holds the entries of a list set one after the other. -/
def ofList (es : List (κ × α)) : OrderedMap κ α :=
  es.foldl (fun m e => m.insert e.1 e.2) empty

/-! ### Views -/

omit [DecidableEq κ] in
/-- A table is its entries. -/
theorem eq_of_entries {m m' : OrderedMap κ α} (h : m.entries = m'.entries) : m = m' := by
  cases m
  cases m'
  cases h
  rfl

@[simp] theorem get?_empty (k : κ) : (empty : OrderedMap κ α).get? k = none := rfl

theorem get?_insert (m : OrderedMap κ α) (k k' : κ) (a : α) :
    (m.insert k a).get? k' = if k = k' then some a else m.get? k' :=
  lookupIn_insertIn k k' a m.entries

theorem get?_insertNew (m : OrderedMap κ α) (k k' : κ) (a : α) :
    (m.insertNew k a).get? k' = (m.get? k').or (if k = k' then some a else none) := by
  unfold insertNew
  rcases hk : m.get? k with - | b
  · -- a new key: the table had nothing there
    rw [if_neg (by simp), get?_insert]
    split
    · next h => rw [← h, hk, Option.none_or]
    · rw [Option.or_none]
  · rw [if_pos (by simp)]
    split
    · next h => rw [← h, hk, Option.some_or]
    · rw [Option.or_none]

theorem keys_insert (m : OrderedMap κ α) (k : κ) (a : α) :
    (m.insert k a).keys = if k ∈ m.keys then m.keys else m.keys ++ [k] :=
  keys_insertIn k a m.entries

theorem keys_insert_of_mem {m : OrderedMap κ α} {k : κ} (h : k ∈ m.keys) (a : α) :
    (m.insert k a).keys = m.keys := by
  rw [keys_insert, if_pos h]

theorem keys_insert_of_notMem {m : OrderedMap κ α} {k : κ} (h : k ∉ m.keys) (a : α) :
    (m.insert k a).keys = m.keys ++ [k] := by
  rw [keys_insert, if_neg h]

theorem keys_erase (m : OrderedMap κ α) (k : κ) :
    (m.erase k).keys = m.keys.filter (· ≠ k) := by
  simp only [keys, erase, List.filter_map]
  rfl

theorem get?_mapValues (f : α → β) (m : OrderedMap κ α) (k : κ) :
    (m.mapValues f).get? k = (m.get? k).map f := by
  obtain ⟨es, _⟩ := m
  simp only [get?, mapValues]
  induction es with
  | nil => rfl
  | cons e es ih =>
    simp only [List.map_cons, lookupIn]
    split
    · rfl
    · next h _ => exact ih (List.nodup_cons.1 h).2

omit [DecidableEq κ] in
theorem keys_mapValues (f : α → β) (m : OrderedMap κ α) : (m.mapValues f).keys = m.keys := by
  simp [keys, mapValues, Function.comp_def]

/-! ### Replacing in place -/

theorem insertIn_of_getElem? {k : κ} {a b : α} {es : List (κ × α)} (h : (es.map Prod.fst).Nodup)
    {i : Nat} (hi : es[i]? = some (k, a)) : insertIn k b es = es.set i (k, b) := by
  induction es generalizing i with
  | nil => cases hi
  | cons e es ih =>
    obtain ⟨hfirst, hrest⟩ := List.nodup_cons.1 h
    rcases i with - | i
    · obtain rfl := Option.some.inj hi
      simp [insertIn]
    · -- the key stands further back, so it is not the first one
      have hne : e.1 ≠ k := by
        intro he
        rw [List.getElem?_cons_succ] at hi
        exact hfirst (he ▸ List.mem_map.2 ⟨_, List.mem_of_getElem? hi, rfl⟩)
      simp [insertIn, hne, ih hrest hi]

/-- With fuel for all of them, the entries from a position on are replaced. -/
theorem entries_updateFrom (f : α → α) {fuel i : Nat} {m : OrderedMap κ α}
    (hfuel : m.entries.length ≤ fuel + i) :
    (updateFrom f fuel i m).entries =
      m.entries.take i ++ (m.entries.drop i).map fun e => (e.1, f e.2) := by
  induction fuel generalizing i m with
  | zero =>
    rw [Nat.zero_add] at hfuel
    simp [updateFrom, List.take_of_length_le hfuel, List.drop_of_length_le hfuel]
  | succ fuel ih =>
    rw [updateFrom]
    split
    · next k a hi =>
      obtain ⟨hlt, hget⟩ := List.getElem?_eq_some_iff.1 hi
      have hset : (m.insert k (f a)).entries = m.entries.set i (k, f a) :=
        insertIn_of_getElem? m.nodup hi
      rw [ih (by rw [hset, List.length_set]; omega), hset, List.drop_set_of_lt (Nat.lt_succ_self i),
        List.drop_eq_getElem_cons hlt, hget, List.map_cons,
        List.take_succ_eq_append_getElem (by simpa using hlt), List.take_set_of_le (Nat.le_refl i)]
      simp
    · next hi =>
      have hle := List.getElem?_eq_none_iff.1 hi
      simp [List.take_of_length_le hle, List.drop_of_length_le hle]

/-- Going through a table while it is changed replaces each value once, and more fuel changes
nothing. -/
theorem updateFrom_eq_mapValues (f : α → α) {m : OrderedMap κ α} {fuel : Nat}
    (hfuel : m.entries.length ≤ fuel) : updateFrom f fuel 0 m = m.mapValues f := by
  apply eq_of_entries
  rw [entries_updateFrom f (by simpa using hfuel)]
  rfl

theorem updateEach_eq_mapValues (f : α → α) (m : OrderedMap κ α) :
    m.updateEach f = m.mapValues f :=
  updateFrom_eq_mapValues f (Nat.le_refl _)

theorem get?_isSome_iff (m : OrderedMap κ α) (k : κ) : (m.get? k).isSome ↔ k ∈ m.keys := by
  obtain ⟨es, _⟩ := m
  simp only [get?, keys]
  induction es with
  | nil => simp [lookupIn]
  | cons e es ih =>
    simp only [lookupIn, List.map_cons, List.mem_cons]
    split
    · next h => simp [h]
    · next hn h =>
      have h' : ¬ k = e.1 := fun e => h e.symm
      simp only [h', false_or]
      exact ih (List.nodup_cons.1 hn).2

theorem mem_entries_iff {m : OrderedMap κ α} {k : κ} {a : α} :
    (k, a) ∈ m.entries ↔ m.get? k = some a := by
  obtain ⟨es, hnodup⟩ := m
  unfold get?
  dsimp only
  induction es with
  | nil => simp [lookupIn]
  | cons e rest ih =>
    obtain ⟨k', b⟩ := e
    obtain ⟨hfirst, hrest⟩ := List.nodup_cons.1 hnodup
    rw [lookupIn, List.mem_cons]
    by_cases hk : k' = k
    · -- no later entry has the key of the first one
      have hnot : (k, a) ∉ rest := fun h => hfirst (hk ▸ List.mem_map.2 ⟨_, h, rfl⟩)
      simp [hk, hnot, eq_comm]
    · have hne : ¬ k = k' := fun h => hk h.symm
      simp [hk, hne, ih hrest]

/-- Entries with new keys are added in turn. -/
theorem entries_foldl_insert {m : OrderedMap κ α} {es : List (κ × α)}
    (h : ((m.entries ++ es).map Prod.fst).Nodup) :
    (es.foldl (fun m e => m.insert e.1 e.2) m).entries = m.entries ++ es := by
  induction es generalizing m with
  | nil => exact (List.append_nil _).symm
  | cons e es ih =>
    rw [List.map_append, List.map_cons] at h
    have hnew : e.1 ∉ m.entries.map Prod.fst := fun hmem =>
      (List.nodup_append.1 h).2.2 _ hmem _ List.mem_cons_self rfl
    have hinsert : (m.insert e.1 e.2).entries = m.entries ++ [e] := insertIn_of_notMem hnew e.2
    have hsplit : m.entries ++ e :: es = (m.insert e.1 e.2).entries ++ es := by
      rw [hinsert, List.append_assoc]
      rfl
    rw [List.foldl_cons, ih, hsplit]
    rw [← hsplit, List.map_append]
    exact h

/-- Entries with distinct keys make up a table as they are. -/
theorem entries_ofList {es : List (κ × α)} (h : (es.map Prod.fst).Nodup) :
    (ofList es).entries = es :=
  entries_foldl_insert (m := empty) h

/-! ### First occurrences -/

omit [DecidableEq κ] in
/-- One more element is new or has been kept already. -/
theorem eraseDups_concat [BEq κ] [LawfulBEq κ] (l : List κ) (k : κ) :
    (l ++ [k]).eraseDups = if k ∈ l.eraseDups then l.eraseDups else l.eraseDups ++ [k] := by
  rw [List.eraseDups_append, List.removeAll]
  by_cases hk : k ∈ l
  · simp [hk]
  · simp [hk, List.eraseDups_cons]

end OrderedMap

end EditorGutter
