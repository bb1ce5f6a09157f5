import EditorGutter.Proofs.Breakpoint.Events
import Mathlib.Data.List.Induction

/-!
Which files have entries after an adapter was heard.

An event changes the list of a file that has an entry and no more (`paths_apply`).  An answer
stores the list it has merged even where there was none, so each file that is answered for has an
entry from then on, an empty one if it had none before.  `BreakpointStore.paths_receiveAll` gives
the files after any number of messages, and the main result
(`BreakpointStore.receiveAll_keeps_paths_iff`) reads off it when they are the files before: when
every file that was answered for had an entry at the start.  A late answer for a file that was
never set, or cleared since, is the one thing that breaks this
(`BreakpointStore.not_paths_receiveAll_late`).
-/
namespace EditorGutter

namespace BreakpointStore

/-- What an adapter sends. -/
inductive Message where
  /-- The answer to the requests for a file. -/
  | response (path : Text) (reports : List BreakpointReport)
  | event (e : Event)
  deriving DecidableEq

/-- The file that a message answers for. -/
def Message.answers? : Message → Option Text
  | .response path _ => some path
  | .event _ => none

/-- The files that messages answer for. -/
def answered (ms : List Message) : List Text := ms.filterMap Message.answers?

/-- The store after a message. -/
def receive (s : BreakpointStore) : Message → BreakpointStore
  | .response path reports => s.applyResponse path reports
  | .event e => s.apply e

/-- The store after messages, one after the other. -/
def receiveAll (s : BreakpointStore) (ms : List Message) : BreakpointStore := ms.foldl receive s

variable {s : BreakpointStore} {path : Text}

theorem answered_concat (ms : List Message) (m : Message) :
    answered (ms ++ [m]) = answered ms ++ m.answers?.toList := by
  rw [answered, List.filterMap_append]
  rcases h : m.answers? with - | path
  · rw [List.filterMap_cons_none h]
    rfl
  · rw [List.filterMap_cons_some h]
    rfl

theorem receiveAll_concat (s : BreakpointStore) (ms : List Message) (m : Message) :
    s.receiveAll (ms ++ [m]) = (s.receiveAll ms).receive m :=
  List.foldl_concat ..

/-! ### The files with entries -/

/-- A message that answers for a new file puts it behind the others. -/
theorem paths_receive (s : BreakpointStore) (m : Message) :
    (s.receive m).paths =
      match m.answers? with
      | some path => if path ∈ s.paths then s.paths else s.paths ++ [path]
      | none => s.paths := by
  rcases m with ⟨path, reports⟩ | e
  · show (s.set path _).paths = if path ∈ s.paths then s.paths else s.paths ++ [path]
    split
    · next h => exact paths_set_of_mem h _
    · next h => exact paths_set_of_notMem h _
  · exact paths_apply s e

/-- **The files after messages**: those from before, and behind them the ones answered for that had
no entry, each at its first answer. -/
theorem paths_receiveAll (s : BreakpointStore) (ms : List Message) :
    (s.receiveAll ms).paths = s.paths ++ ((answered ms).filter (· ∉ s.paths)).eraseDups := by
  -- from the end: the last message finds the files that the others have left
  induction ms using List.reverseRecOn with
  | nil => exact (List.append_nil _).symm
  | append_singleton ms m ih =>
    rw [receiveAll_concat, paths_receive, ih, answered_concat, List.filter_append]
    rcases m.answers? with - | path
    · simp
    · by_cases hbefore : path ∈ s.paths
      · simp [hbefore]
      · have hnew : [path].filter (· ∉ s.paths) = [path] := by simp [hbefore]
        rw [Option.toList_some, hnew, OrderedMap.eraseDups_concat]
        -- the file was answered for among `ms` already, or is the next one
        by_cases hagain : path ∈ answered ms
        · simp [hbefore, hagain]
        · simp [hbefore, hagain]

/-! ### Files without breakpoints -/

/-- A message gives no breakpoints to a file that has none. -/
theorem list_receive_of_nil (h : s.list path = []) (m : Message) :
    (s.receive m).list path = [] := by
  rcases m with ⟨other, reports⟩ | e
  · show (s.set other (mergeAll (s.list other) reports)).list path = []
    by_cases hsame : other = path
    · rw [hsame, list_set, h]
      rfl
    · rw [list_set_of_ne _ hsame]
      exact h
  · show (s.apply e).list path = []
    rcases s.apply_cases e with hsame | ⟨-, other, before, b, after, -, hget, -, -, hset⟩
    · rw [hsame]
      exact h
    · -- the file of the event has a breakpoint, so it is another one
      have hne : other ≠ path := by
        rintro rfl
        rw [list_of_get? hget] at h
        simp at h
      rw [hset, list_set_of_ne _ hne]
      exact h

theorem list_receiveAll_of_nil (h : s.list path = []) (ms : List Message) :
    (s.receiveAll ms).list path = [] := by
  induction ms generalizing s with
  | nil => exact h
  | cons m ms ih => exact ih (list_receive_of_nil h m)

/-- What a file without an entry has after messages: an empty one if it was answered for. -/
theorem get?_receiveAll_of_none (h : s.get? path = none) (ms : List Message) :
    (s.receiveAll ms).get? path = if path ∈ answered ms then some [] else none := by
  have hpath : path ∉ s.paths := (s.get?_eq_none_iff path).mp h
  have hmem : path ∈ (s.receiveAll ms).paths ↔ path ∈ answered ms := by
    rw [paths_receiveAll]
    simp [hpath]
  rcases hget : (s.receiveAll ms).get? path with - | bs
  · have hnot := (get?_eq_none_iff _ _).mp hget
    rw [if_neg fun hanswered => hnot (hmem.mpr hanswered)]
  · -- the entry holds no more than there was before
    have hnil : (s.receiveAll ms).list path = [] := by
      apply list_receiveAll_of_nil
      rw [list, h]
      rfl
    rw [if_pos (hmem.mp (mem_paths_of_get? hget)), ← hnil, list_of_get? hget]

/-- **Messages keep the files with entries exactly if each file that they answer for has one.**  The
other files answered for come behind those from before; a file without an entry has an empty one
if it was answered for, and none otherwise. -/
theorem receiveAll_keeps_paths_iff (s : BreakpointStore) (ms : List Message) :
    ((s.receiveAll ms).paths = s.paths ↔ ∀ path ∈ answered ms, path ∈ s.paths) ∧
    (s.receiveAll ms).paths = s.paths ++ ((answered ms).filter (· ∉ s.paths)).eraseDups ∧
    ∀ path, s.get? path = none →
      (s.receiveAll ms).get? path = if path ∈ answered ms then some [] else none := by
  refine ⟨?_, paths_receiveAll s ms, fun path h => get?_receiveAll_of_none h ms⟩
  rw [paths_receiveAll, List.append_right_eq_self, List.eq_nil_iff_forall_not_mem]
  simp

/-- With breakpoints in one file and another cleared, answers and events in turn: only the late
answer for the cleared file adds to the files. -/
theorem receiveAll_keeps_paths_iff_cleared :
    let kept := Text.ofString "/tmp/kept.ts"
    let cleared := Text.ofString "/tmp/cleared.ts"
    let s := ((empty.set cleared [{ line := 4, verified := false }]).set kept
      [{ line := 1, verified := false }, { line := 3, verified := false }]).clear cleared
    let early := [Message.response kept [{ verified := true, id := some 7 }],
      .event ⟨.removed, { verified := true, id := some 7 }⟩]
    let late := early ++ [.response cleared [{ verified := true, line := some 5 }]]
    s.get? cleared = none ∧ (s.receiveAll early).paths = s.paths ∧
      (s.receiveAll early).get? cleared = none ∧ (s.receiveAll late).paths = [kept, cleared] ∧
      (s.receiveAll late).get? cleared = some [] := by
  intro kept cleared s early late
  have hnone : s.get? cleared = none := by decide +kernel
  obtain ⟨hkeeps, -, hearly⟩ := receiveAll_keeps_paths_iff s early
  obtain ⟨-, hpaths, hlate⟩ := receiveAll_keeps_paths_iff s late
  refine ⟨hnone, hkeeps.mpr (by decide +kernel), ?_, ?_, ?_⟩
  · rw [hearly cleared hnone]
    decide +kernel
  · rw [hpaths]
    decide +kernel
  · rw [hlate cleared hnone]
    decide +kernel

/-- An answer without results for a file that has no breakpoints gives the file an entry. -/
theorem not_paths_receiveAll_late :
    let path := Text.ofString "/tmp/example.ts"
    let late := [Message.response path []]
    empty.get? path = none ∧ empty.paths = [] ∧
      (empty.receiveAll late).get? path = some [] ∧ (empty.receiveAll late).paths = [path] := by
  decide +kernel

end BreakpointStore

end EditorGutter
