import EditorGutter.Breakpoint.Store
import EditorGutter.Proofs.FirstMatch
import Mathlib.Data.List.Pairwise
import Mathlib.Data.List.Perm.Basic

/-!
Events of an adapter, and the order in which they come.

An event looks through the files for the first breakpoint of its name and changes it or takes it
out.  So the table of files is changed at its first entry that matches, and the list of that file
at its first breakpoint that does (`entries_apply`); nothing else is touched (`apply_cases`).  An
event leaves the breakpoint that it names its name (`Breakpoint.id_eventEffect`), which is why two
events with different names do not get in each other's way (`apply_comm`), and any number of them
may come in any order (`foldl_apply_perm`).
-/
namespace EditorGutter

/-! ### Names -/

namespace Breakpoint

variable {id id' : Number} {b b' : Breakpoint} {reason : ReportReason} {report : BreakpointReport}

/-- A breakpoint has the name that it carries, unless that is NaN. -/
theorem hasId_iff : b.hasId id = true ↔ b.id = some id ∧ id ≠ .nan := by
  unfold hasId
  rcases b.id with - | own
  · simp
  · dsimp only
    rw [Number.equals_iff, Option.some.injEq]
    constructor
    · rintro ⟨rfl, hown⟩
      exact ⟨rfl, hown⟩
    · rintro ⟨rfl, hid⟩
      exact ⟨rfl, hid⟩

theorem hasId_congr (h : b'.id = b.id) (id : Number) : b'.hasId id = b.hasId id := by
  unfold hasId
  rw [h]

/-- No breakpoint has two names that differ. -/
theorem hasId_eq_false_of_hasId (hne : id.equals id' = false) (hb : b.hasId id = true) :
    b.hasId id' = false := by
  obtain ⟨hown, hnan⟩ := hasId_iff.mp hb
  rw [← Bool.not_eq_true, hasId_iff, hown]
  rintro ⟨hsame, -⟩
  have hequals : id.equals id' = true := Number.equals_iff.mpr ⟨Option.some.inj hsame, hnan⟩
  rw [hne] at hequals
  cases hequals

/-- An event leaves the breakpoint that it names its name. -/
theorem id_eventEffect (hid : report.id = some id) (hb : b.hasId id = true)
    (h : BreakpointStore.eventEffect reason report b = some b') : b'.id = b.id := by
  obtain ⟨hown, -⟩ := hasId_iff.mp hb
  have hmerge : (b.merge report).id = b.id := by
    show (report.id <|> b.id) = b.id
    rw [hid, hown]
    rfl
  cases reason with
  | removed => cases h
  | changed => exact Option.some.inj h ▸ hmerge
  | added => exact Option.some.inj h ▸ hmerge

end Breakpoint

namespace BreakpointStore

open Breakpoint

/-! ### What an event changes -/

/-- What an adapter reports on its own account. -/
structure Event where
  reason : ReportReason
  report : BreakpointReport
  deriving DecidableEq

/-- The store after an event. -/
def apply (s : BreakpointStore) (e : Event) : BreakpointStore := s.applyEvent e.reason e.report

/-- What an event does to the breakpoint that it names. -/
def Event.effect (e : Event) : Breakpoint → Option Breakpoint := eventEffect e.reason e.report

/-- Whether a file has a breakpoint of a name. -/
def holds (id : Number) (file : Text × List Breakpoint) : Bool := file.2.any (hasId id)

/-- A file with its first breakpoint of a name changed. -/
def changeFile (id : Number) (f : Breakpoint → Option Breakpoint)
    (file : Text × List Breakpoint) : Option (Text × List Breakpoint) :=
  some (file.1, updateFirst (hasId id) f file.2)

variable {s : BreakpointStore} {e e₁ e₂ : Event} {id id₁ id₂ : Number} {path : Text}
variable {b b' : Breakpoint} {bs : List Breakpoint} {file file' : Text × List Breakpoint}

theorem changeFirst_eq (id : Number) (f : Breakpoint → Option Breakpoint) (bs : List Breakpoint) :
    changeFirst id f bs = updateFirst (hasId id) f bs := by
  induction bs with
  | nil => rfl
  | cons b rest ih =>
    rw [changeFirst, updateFirst, ih]
    rcases f b with - | b'
    · rfl
    · rfl

/-- Setting the list of the first file that matches changes the table there. -/
theorem insertIn_of_find? {es : List (Text × List Breakpoint)} (hnodup : (es.map Prod.fst).Nodup)
    (hfind : es.find? (holds id) = some (path, bs)) (f : Breakpoint → Option Breakpoint) :
    OrderedMap.insertIn path (updateFirst (hasId id) f bs) es =
      updateFirst (holds id) (changeFile id f) es := by
  induction es with
  | nil => cases hfind
  | cons file rest ih =>
    obtain ⟨hfirst, hrest⟩ := List.nodup_cons.mp hnodup
    rw [List.find?_cons] at hfind
    rw [OrderedMap.insertIn, updateFirst]
    rcases hfile : holds id file with - | -
    · -- the file is further back, so it is not the first one
      rw [hfile] at hfind
      have hmem : (path, bs) ∈ rest := List.mem_of_find?_eq_some hfind
      have hne : file.1 ≠ path := by
        intro hpath
        exact hfirst (List.mem_map.mpr ⟨_, hmem, hpath.symm⟩)
      rw [if_neg hne, ih hrest hfind]
      rfl
    · rw [hfile] at hfind
      obtain rfl := Option.some.inj hfind
      rw [if_pos rfl]
      rfl

/-- **An event changes the first breakpoint of its name** in the first file that has one. -/
theorem entries_apply (s : BreakpointStore) (hid : e.report.id = some id) :
    (s.apply e).byPath.entries =
      updateFirst (holds id) (changeFile id e.effect) s.byPath.entries := by
  unfold apply applyEvent
  simp only [hid]
  rcases hfind : s.holder? id with - | ⟨path, bs⟩
  · have hnone := List.find?_eq_none.mp hfind
    refine (updateFirst_of_forall ?_).symm
    intro file hfile
    exact Bool.not_eq_true _ ▸ hnone file hfile
  · show OrderedMap.insertIn path (changeFirst id _ bs) _ = _
    rw [changeFirst_eq]
    exact insertIn_of_find? s.byPath.nodup hfind _

/-- An event does nothing, or it changes the first breakpoint of its name in some file, or takes it
out. -/
theorem apply_cases (s : BreakpointStore) (e : Event) :
    s.apply e = s ∨ ∃ id path before b after, e.report.id = some id ∧
      s.get? path = some (before ++ b :: after) ∧ (∀ c ∈ before, c.hasId id = false) ∧
      b.hasId id = true ∧ s.apply e = s.set path (before ++ ((e.effect b).toList ++ after)) := by
  unfold apply applyEvent
  rcases hid : e.report.id with - | id
  · exact .inl rfl
  · dsimp only
    rcases hfind : s.holder? id with - | ⟨path, bs⟩
    · exact .inl rfl
    · have hheld : holds id (path, bs) = true :=
        List.find?_some (show s.byPath.entries.find? (holds id) = some (path, bs) from hfind)
      obtain ⟨before, b, after, rfl, hbefore, hb, hupdate⟩ :=
        exists_updateFirst (hasId id) e.effect (List.any_eq_true.mp hheld)
      have hget : s.get? path = some (before ++ b :: after) :=
        OrderedMap.mem_entries_iff.mp (List.mem_of_find?_eq_some hfind)
      refine .inr ⟨id, path, before, b, after, rfl, hget, hbefore, hb, ?_⟩
      rw [← hupdate]
      exact congrArg (s.set path) (changeFirst_eq id _ _)

/-- No event gives a file an entry, or takes one away. -/
theorem paths_apply (s : BreakpointStore) (e : Event) : (s.apply e).paths = s.paths := by
  rcases s.apply_cases e with h | ⟨-, path, before, b, after, -, hget, -, -, h⟩
  · rw [h]
  · rw [h, paths_set_of_mem (mem_paths_of_get? hget)]

/-! ### Either order -/

/-- Two events name breakpoints, and not the same. -/
def Event.Apart (e₁ e₂ : Event) : Prop :=
  ∃ id₁ id₂, e₁.report.id = some id₁ ∧ e₂.report.id = some id₂ ∧ id₁.equals id₂ = false

instance : Std.Symm Event.Apart where
  symm := by
    rintro e₁ e₂ ⟨id₁, id₂, hid₁, hid₂, hne⟩
    exact ⟨id₂, id₁, hid₂, hid₁, (Number.equals_comm _ _).trans hne⟩

/-- An event does not give a breakpoint another name. -/
theorem hasId_effect (hid : e.report.id = some id₁) (hne : id₁.equals id₂ = false)
    (hb : b.hasId id₁ = true) (h : e.effect b = some b') : b'.hasId id₂ = false := by
  rw [hasId_congr (id_eventEffect hid hb h)]
  exact hasId_eq_false_of_hasId hne hb

/-- Within a file, two events commute. -/
theorem updateFirst_hasId_comm (hid₁ : e₁.report.id = some id₁) (hid₂ : e₂.report.id = some id₂)
    (hne : id₁.equals id₂ = false) (bs : List Breakpoint) :
    updateFirst (hasId id₁) e₁.effect (updateFirst (hasId id₂) e₂.effect bs) =
      updateFirst (hasId id₂) e₂.effect (updateFirst (hasId id₁) e₁.effect bs) := by
  have hne' : id₂.equals id₁ = false := (Number.equals_comm _ _).trans hne
  apply updateFirst_comm
  · intro b b' hb h
    rw [hasId_effect hid₁ hne hb h, hasId_eq_false_of_hasId hne hb]
  · intro b b' hb h
    rw [hasId_effect hid₂ hne' hb h, hasId_eq_false_of_hasId hne' hb]
  · -- no breakpoint has both names
    intro b hb hb'
    rw [hasId_eq_false_of_hasId hne hb] at hb'
    cases hb'

/-- A file has a breakpoint of another name after an event exactly if it had one before. -/
theorem holds_changeFile (hid : e.report.id = some id₁) (hne : id₁.equals id₂ = false)
    (h : changeFile id₁ e.effect file = some file') : holds id₂ file' = holds id₂ file := by
  obtain rfl := Option.some.inj h
  refine any_updateFirst ?_ ?_
  · intro b hb
    exact hasId_eq_false_of_hasId hne hb
  · intro b b' hb h
    exact hasId_effect hid hne hb h

/-- **Events on different breakpoints may come in either order.**  The two may be in one file or in
two, be there several times or not at all. -/
theorem apply_comm (s : BreakpointStore) (h : e₁.Apart e₂) :
    (s.apply e₁).apply e₂ = (s.apply e₂).apply e₁ := by
  obtain ⟨id₁, id₂, hid₁, hid₂, hne⟩ := h
  have hne' : id₂.equals id₁ = false := (Number.equals_comm _ _).trans hne
  have hentries : ((s.apply e₁).apply e₂).byPath.entries =
      ((s.apply e₂).apply e₁).byPath.entries := by
    rw [entries_apply _ hid₂, entries_apply _ hid₁, entries_apply _ hid₁, entries_apply _ hid₂]
    apply updateFirst_comm
    · intro file file' _ h
      exact holds_changeFile hid₂ hne' h
    · intro file file' _ h
      exact holds_changeFile hid₁ hne h
    · -- a file with both is changed twice
      intro file _ _
      refine ⟨_, _, rfl, rfl, ?_⟩
      simp only [changeFile]
      rw [updateFirst_hasId_comm hid₁ hid₂ hne]
  exact congrArg BreakpointStore.mk (OrderedMap.eq_of_entries hentries)

/-- Events on different breakpoints may come in any order. -/
theorem foldl_apply_perm {es es' : List Event} (hperm : es.Perm es')
    (hes : es.Pairwise Event.Apart) (s : BreakpointStore) :
    es.foldl apply s = es'.foldl apply s := by
  refine hperm.foldl_eq' ?_ s
  intro e₁ he₁ e₂ he₂ t
  by_cases hsame : e₁ = e₂
  · rw [hsame]
  · exact t.apply_comm (hes.forall he₁ he₂ hsame)

end BreakpointStore

end EditorGutter
