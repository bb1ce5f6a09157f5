import EditorGutter.Breakpoint.Basic
import EditorGutter.Fault
import EditorGutter.Log
import EditorGutter.OrderedMap

/-!
The breakpoints of all files, kept in step with a debug adapter.

A file has an entry once breakpoints were set, toggled or answered for it.  An adapter answers a
request in its order, so results are matched with the breakpoints by position; an event names its
breakpoint, and changes the first one with that name in the first file that has it.  What cannot
be matched is reported in the log.
-/
namespace EditorGutter

/-- The breakpoints of each file that has an entry. -/
structure BreakpointStore where
  byPath : OrderedMap Text (List Breakpoint)
  deriving DecidableEq

namespace BreakpointStore

open Text

/-- The store without entries. -/
def empty : BreakpointStore := ⟨OrderedMap.empty⟩

instance : Inhabited BreakpointStore := ⟨empty⟩

variable (s : BreakpointStore)

/-- The breakpoints of a file, if it has an entry. -/
def get? (path : Text) : Option (List Breakpoint) := s.byPath.get? path

/-- The breakpoints of a file, none if it has no entry. -/
def list (path : Text) : List Breakpoint := (s.get? path).getD []

/-- The store with the breakpoints of a file replaced. -/
def set (path : Text) (bs : List Breakpoint) : BreakpointStore := ⟨s.byPath.insert path bs⟩

/-- The store without the entry of a file. -/
def clear (path : Text) : BreakpointStore := ⟨s.byPath.erase path⟩

/-- The files that have an entry, in the order in which they got it. -/
def paths : List Text := s.byPath.keys

theorem get?_set (path path' : Text) (bs : List Breakpoint) :
    (s.set path bs).get? path' = if path = path' then some bs else s.get? path' :=
  OrderedMap.get?_insert _ _ _ _

variable {s} in
theorem list_of_get? {path : Text} {bs : List Breakpoint} (h : s.get? path = some bs) :
    s.list path = bs := by
  rw [list, h]
  rfl

@[simp] theorem list_set (path : Text) (bs : List Breakpoint) : (s.set path bs).list path = bs := by
  rw [list, get?_set, if_pos rfl]
  rfl

theorem list_set_of_ne {path path' : Text} (h : path ≠ path') (bs : List Breakpoint) :
    (s.set path bs).list path' = s.list path' := by
  rw [list, get?_set, if_neg h]
  rfl

variable {s} in
theorem paths_set_of_mem {path : Text} (h : path ∈ s.paths) (bs : List Breakpoint) :
    (s.set path bs).paths = s.paths :=
  OrderedMap.keys_insert_of_mem h bs

variable {s} in
theorem paths_set_of_notMem {path : Text} (h : path ∉ s.paths) (bs : List Breakpoint) :
    (s.set path bs).paths = s.paths ++ [path] :=
  OrderedMap.keys_insert_of_notMem h bs

variable {s} in
theorem mem_paths_of_get? {path : Text} {bs : List Breakpoint} (h : s.get? path = some bs) :
    path ∈ s.paths :=
  (OrderedMap.get?_isSome_iff s.byPath path).1 (Option.isSome_of_eq_some h)

theorem get?_eq_none_iff (path : Text) : s.get? path = none ↔ path ∉ s.paths := by
  rw [paths, ← OrderedMap.get?_isSome_iff, Option.not_isSome_iff_eq_none]
  rfl

theorem paths_clear (path : Text) : (s.clear path).paths = s.paths.filter (· ≠ path) :=
  OrderedMap.keys_erase _ _

/-! ### Toggling -/

/-- The list without its first breakpoint on a line, if it has one there. -/
def removeOnLine? (line : Number) : List Breakpoint → Option (List Breakpoint)
  | [] => none
  | b :: rest =>
    if b.line.equals line then some rest else (removeOnLine? line rest).map (b :: ·)

/-- Removes the first breakpoint on a line of a file, or adds an unverified one; the flag says
whether one was added. -/
def toggle (path : Text) (line : Number) : Bool × BreakpointStore :=
  match removeOnLine? line (s.list path) with
  | some rest => (false, s.set path rest)
  | none => (true, s.set path (s.list path ++ [{ line := line, verified := false }]))

/-! ### Requests and answers -/

/-- The requests for the breakpoints of a file. -/
def requests (path : Text) : List BreakpointRequest := (s.list path).map Breakpoint.request

/-- Breakpoints with the reports at the same positions merged in. -/
def mergeAll : List Breakpoint → List BreakpointReport → List Breakpoint
  | b :: bs, r :: rs => b.merge r :: mergeAll bs rs
  | bs, _ => bs

/-- Merges an adapter's answer to the requests for a file. -/
def applyResponse (path : Text) (reports : List BreakpointReport) : BreakpointStore :=
  s.set path (mergeAll (s.list path) reports)

/-- A report of the breakpoint store. -/
def record (level : Log.Level) (words : Text) : Log.Record :=
  Log.record (ofString "breakpoints") level [.text words]

/-- What is reported about an answer: that it has another length than the list it answers. -/
def responseRecords (path : Text) (reports : List BreakpointReport) : List Log.Record :=
  if reports.length = (s.list path).length then []
  else
    [record .warn (ofString "setBreakpoints for " ++ path ++ ofString " returned "
      ++ ofNat reports.length ++ ofString " results for " ++ ofNat (s.list path).length
      ++ ofString " breakpoints")]

/-! ### Events -/

/-- Changes the first breakpoint with a name, or removes it. -/
def changeFirst (id : Number) (f : Breakpoint → Option Breakpoint) :
    List Breakpoint → List Breakpoint
  | [] => []
  | b :: rest =>
    if b.hasId id then
      match f b with
      | some b' => b' :: rest
      | none => rest
    else b :: changeFirst id f rest

/-- What an event does to the breakpoint that it names. -/
def eventEffect (reason : ReportReason) (report : BreakpointReport) (b : Breakpoint) :
    Option Breakpoint :=
  match reason with
  | .removed => none
  | _ => some (b.merge report)

/-- The first file that has a breakpoint with a name, with its breakpoints. -/
def holder? (id : Number) : Option (Text × List Breakpoint) :=
  s.byPath.entries.find? fun e => e.2.any (Breakpoint.hasId id)

/-- Applies an event of the adapter; one that names no known breakpoint changes nothing. -/
def applyEvent (reason : ReportReason) (report : BreakpointReport) : BreakpointStore :=
  match report.id with
  | none => s
  | some id =>
    match s.holder? id with
    | some (path, bs) => s.set path (changeFirst id (eventEffect reason report) bs)
    | none => s

/-- What is reported about an event: that it names no breakpoint, or none that is known. -/
def eventRecords (reason : ReportReason) (report : BreakpointReport) : List Log.Record :=
  match report.id with
  | none =>
    [record .warn (ofString "Ignoring " ++ quoted (ofString reason.name)
      ++ ofString " breakpoint event without an id")]
  | some id =>
    if (s.holder? id).isSome then []
    else
      [record .debug (ofString "No breakpoint with id " ++ id.toText ++ ofString " for "
        ++ quoted (ofString reason.name) ++ ofString " event")]

end BreakpointStore

end EditorGutter
