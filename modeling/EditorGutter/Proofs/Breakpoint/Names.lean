import EditorGutter.Proofs.Breakpoint.Events
import EditorGutter.Proofs.Breakpoint.InFlight
import Mathlib.Data.List.Flatten

/-!
The names of breakpoints while an adapter sends events and the user goes on editing.

Told file by file (`BreakpointStore.all`), an event changes the first breakpoint of its name
(`all_apply`).  No event and no toggle gives a breakpoint a name that it did not have, so the names
in a store can only get fewer (`ids_step_sublist`), and names that are distinct stay so
(`DistinctIds.run`).  Where they are distinct, a removal takes out the one breakpoint of its name
(`DistinctIds.hasId_eq_false_of_removed`).  The main result (`events_independent`) puts this
together with the order of events.
-/
namespace EditorGutter

namespace BreakpointStore

open Breakpoint

/-- All breakpoints, file by file. -/
def all (s : BreakpointStore) : List Breakpoint := s.byPath.entries.flatMap Prod.snd

/-- The names that breakpoints have. -/
def ids (s : BreakpointStore) : List Number := s.all.filterMap Breakpoint.id

/-- No two breakpoints of any files have the same name. -/
def DistinctIds (s : BreakpointStore) : Prop := s.ids.Pairwise fun x y => x.equals y = false

instance (s : BreakpointStore) : Decidable s.DistinctIds :=
  inferInstanceAs (Decidable (s.ids.Pairwise fun x y => x.equals y = false))

variable {s : BreakpointStore} {e : Event} {id : Number} {path : Text}
variable {b : Breakpoint} {bs : List Breakpoint}

/-! ### All breakpoints -/

theorem mem_all (hb : b ∈ s.list path) : b ∈ s.all := by
  unfold list at hb
  rcases hget : s.get? path with - | bs
  · rw [hget] at hb
    cases hb
  · rw [hget] at hb
    exact List.mem_flatMap.mpr ⟨(path, bs), OrderedMap.mem_entries_iff.mpr hget, hb⟩

/-- The first breakpoint of the first file that has one is the first one of all. -/
theorem flatMap_updateFirst (id : Number) (f : Breakpoint → Option Breakpoint)
    (es : List (Text × List Breakpoint)) :
    (updateFirst (holds id) (changeFile id f) es).flatMap Prod.snd =
      updateFirst (hasId id) f (es.flatMap Prod.snd) := by
  induction es with
  | nil => rfl
  | cons file rest ih =>
    rw [updateFirst, List.flatMap_cons, updateFirst_append, ← ih]
    rcases h : holds id file with - | -
    · rw [if_neg (show ¬ file.2.any (hasId id) = true from Bool.not_eq_true _ ▸ h)]
      rfl
    · rw [if_pos (show file.2.any (hasId id) = true from h)]
      rfl

/-- An event changes the first of all breakpoints that have its name. -/
theorem all_apply (s : BreakpointStore) (hid : e.report.id = some id) :
    (s.apply e).all = updateFirst (hasId id) e.effect s.all := by
  unfold all
  rw [entries_apply s hid, flatMap_updateFirst]

/-! ### The names that are left -/

theorem ids_apply_sublist (s : BreakpointStore) (e : Event) : (s.apply e).ids.Sublist s.ids := by
  rcases hid : e.report.id with - | id
  · rw [apply, applyEvent, hid]
  · unfold ids
    rw [all_apply s hid]
    refine filterMap_updateFirst_sublist ?_
    intro b b' hb h
    exact id_eventEffect hid hb h

theorem flatMap_insertIn_sublist {es : List (Text × List Breakpoint)}
    (h : (bs.filterMap Breakpoint.id).Sublist
      (((OrderedMap.lookupIn path es).getD []).filterMap Breakpoint.id)) :
    (((OrderedMap.insertIn path bs es).flatMap Prod.snd).filterMap Breakpoint.id).Sublist
      ((es.flatMap Prod.snd).filterMap Breakpoint.id) := by
  induction es with
  | nil => simpa [OrderedMap.insertIn, OrderedMap.lookupIn] using h
  | cons file rest ih =>
    rw [OrderedMap.lookupIn] at h
    rw [OrderedMap.insertIn]
    split
    · next hfile =>
      rw [if_pos hfile] at h
      simp only [List.flatMap_cons, List.filterMap_append]
      exact h.append (.refl _)
    · next hfile =>
      rw [if_neg hfile] at h
      simp only [List.flatMap_cons, List.filterMap_append]
      exact (List.Sublist.refl _).append (ih h)

/-- A list that brings no names to its file brings none to the store. -/
theorem ids_set_sublist
    (h : (bs.filterMap Breakpoint.id).Sublist ((s.list path).filterMap Breakpoint.id)) :
    (s.set path bs).ids.Sublist s.ids :=
  flatMap_insertIn_sublist h

theorem ids_toggle_sublist (s : BreakpointStore) (path : Text) (line : Number) :
    (s.toggle path line).2.ids.Sublist s.ids := by
  unfold toggle
  rw [removeOnLine?_eq]
  rcases position? line (s.list path) with - | i
  · -- the new breakpoint has no name yet
    apply ids_set_sublist
    rw [List.filterMap_append]
    exact (List.append_nil _).symm ▸ .refl _
  · exact ids_set_sublist ((List.eraseIdx_sublist _ _).filterMap _)

theorem ids_clear_sublist (s : BreakpointStore) (path : Text) :
    (s.clear path).ids.Sublist s.ids :=
  (List.filter_sublist.flatMap _).filterMap _

/-! ### Distinct names -/

/-- A call that leaves the names alone that it does not take away. -/
inductive Step where
  | event (e : Event)
  | toggle (path : Text) (line : Number)
  | clear (path : Text)

/-- One call on a store. -/
def step (s : BreakpointStore) : Step → BreakpointStore
  | .event e => s.apply e
  | .toggle path line => (s.toggle path line).2
  | .clear path => s.clear path

/-- The store after a sequence of calls. -/
def run (s : BreakpointStore) (steps : List Step) : BreakpointStore := steps.foldl step s

theorem ids_step_sublist (s : BreakpointStore) (st : Step) : (s.step st).ids.Sublist s.ids := by
  cases st with
  | event e => exact ids_apply_sublist s e
  | toggle path line => exact ids_toggle_sublist s path line
  | clear path => exact ids_clear_sublist s path

theorem DistinctIds.step (h : s.DistinctIds) (st : Step) : (s.step st).DistinctIds :=
  h.sublist (ids_step_sublist s st)

/-- **Distinct names stay distinct.** -/
theorem DistinctIds.run (h : s.DistinctIds) (steps : List Step) : (s.run steps).DistinctIds := by
  induction steps generalizing s with
  | nil => exact h
  | cons st steps ih => exact ih (h.step st)

/-- Where names are distinct, a removal leaves none of its own. -/
theorem DistinctIds.hasId_eq_false_of_removed (hs : s.DistinctIds) (hreason : e.reason = .removed)
    (hid : e.report.id = some id) (hb : b ∈ (s.apply e).all) : b.hasId id = false := by
  rw [all_apply s hid] at hb
  by_cases h : ∃ c ∈ s.all, c.hasId id = true
  · obtain ⟨before, c, after, hall, hbefore, hc, hupdate⟩ :=
      exists_updateFirst (hasId id) e.effect h
    have hgone : e.effect c = none := by
      unfold Event.effect
      rw [hreason]
      rfl
    rw [hupdate, hgone] at hb
    rcases List.mem_append.mp hb with hb | hb
    · exact hbefore b hb
    · -- behind the one taken out no other has its name
      obtain ⟨hown, -⟩ := hasId_iff.mp hc
      rw [DistinctIds, ids, hall, List.filterMap_append, List.filterMap_cons_some hown,
        List.pairwise_append, List.pairwise_cons] at hs
      obtain ⟨-, ⟨hafter, -⟩, -⟩ := hs
      rw [← Bool.not_eq_true, hasId_iff]
      rintro ⟨hbown, hnan⟩
      have hne : id.equals id = false := hafter id (List.mem_filterMap.mpr ⟨b, hb, hbown⟩)
      rw [Number.equals_iff.mpr ⟨rfl, hnan⟩] at hne
      cases hne
  · -- nothing had the name before
    have hnone : ∀ c ∈ s.all, c.hasId id = false := by
      intro c hc
      rw [← Bool.not_eq_true]
      exact fun hcid => h ⟨c, hc, hcid⟩
    rw [updateFirst_of_forall hnone] at hb
    exact hnone b hb

/-! ### Independence -/

/-- An event reaches one breakpoint at most: no file comes or goes, and if anything is changed, then
in one file the breakpoint that the event names, and none around it or in another file. -/
def ReachesOne (s : BreakpointStore) (e : Event) : Prop :=
  (s.apply e).paths = s.paths ∧
    (s.apply e = s ∨ ∃ id path before b after, e.report.id = some id ∧ b.hasId id = true ∧
      s.get? path = some (before ++ b :: after) ∧
      (s.apply e).get? path = some (before ++ ((e.effect b).toList ++ after)) ∧
      ∀ other, other ≠ path → (s.apply e).get? other = s.get? other)

theorem reachesOne (s : BreakpointStore) (e : Event) : s.ReachesOne e := by
  refine ⟨paths_apply s e, ?_⟩
  rcases s.apply_cases e with h | ⟨id, path, before, b, after, hid, hget, -, hb, h⟩
  · exact .inl h
  · refine .inr ⟨id, path, before, b, after, hid, hb, hget, ?_, ?_⟩
    · rw [h, get?_set, if_pos rfl]
    · intro other hother
      rw [h, get?_set, if_neg (Ne.symm hother)]

/-- **Events are independent of each other.**  Two that name different breakpoints may come in
either order, each reaches one breakpoint at most, distinct names stay distinct under events,
toggles and clearing, and after a removal no breakpoint of any file has its name. -/
theorem events_independent (s : BreakpointStore) :
    (∀ e₁ e₂ : Event, e₁.Apart e₂ → (s.apply e₁).apply e₂ = (s.apply e₂).apply e₁) ∧
    (∀ e, s.ReachesOne e) ∧
    (s.DistinctIds →
      (∀ steps, (s.run steps).DistinctIds) ∧
      ∀ e id, e.reason = .removed → e.report.id = some id →
        ∀ path, ∀ b ∈ (s.apply e).list path, b.hasId id = false) := by
  refine ⟨fun e₁ e₂ h => s.apply_comm h, reachesOne s, ?_⟩
  intro hs
  refine ⟨hs.run, ?_⟩
  intro e id hreason hid path b hb
  exact hs.hasId_eq_false_of_removed hreason hid (mem_all hb)

/-- A store with two files and three names. -/
def threeNamed : BreakpointStore :=
  (empty.set (Text.ofString "/a.ts") [{ line := 0, verified := true, id := some 3 }]).set
    (Text.ofString "/b.ts")
    [{ line := 2, verified := false, id := some 7 }, { line := 5, verified := true, id := some 8 }]

/-- In one file a breakpoint is moved and the one behind it taken out, in either order. -/
theorem events_independent_threeNamed :
    let moved : Event := ⟨.changed, { verified := true, id := some 7, line := some 5 }⟩
    let removed : Event := ⟨.removed, { verified := true, id := some 8 }⟩
    moved.Apart removed ∧ threeNamed.DistinctIds ∧
      (threeNamed.apply moved).apply removed = (threeNamed.apply removed).apply moved ∧
      threeNamed.ReachesOne moved ∧
      (threeNamed.run [.event moved, .toggle (Text.ofString "/b.ts") 5, .event removed,
        .clear (Text.ofString "/a.ts")]).DistinctIds ∧
      ∀ path, ∀ b ∈ (threeNamed.apply removed).list path, b.hasId 8 = false := by
  intro moved removed
  have hapart : moved.Apart removed := ⟨7, 8, rfl, rfl, by decide⟩
  have hdistinct : threeNamed.DistinctIds := by decide +kernel
  obtain ⟨hcomm, hone, hnames⟩ := events_independent threeNamed
  obtain ⟨hrun, hremoved⟩ := hnames hdistinct
  exact ⟨hapart, hdistinct, hcomm _ _ hapart, hone _, hrun _, hremoved removed 8 rfl rfl⟩

end BreakpointStore

end EditorGutter
