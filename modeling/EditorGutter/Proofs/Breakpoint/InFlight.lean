import EditorGutter.Breakpoint.Store
import Mathlib.Data.List.Forall2
import Mathlib.Data.List.InsertIdx

/-!
Toggling while an adapter's answer is on its way.

Requests are sent for the breakpoints that a file has, and the answer is merged by position into
those that it has by then.  Beside the store we carry which request was sent for which breakpoint
(`BreakpointStore.InFlight`), and call an answer kept apart if no breakpoint leaves its line or
takes anything from a report on another one (`InFlight.KeptApart`).

The main result (`BreakpointStore.keptApart_iff`) says for which sequences of toggles that is sure:
those after which the file is still in step with its requests (`InFlight.InStep`), each
breakpoint at the position of a request being the one it was sent for.  Toggles that hit none of
the breakpoints sent are of this kind (`InFlight.inStep_toggles`); removing one and adding another
is not, even though the number of breakpoints stays the same and nothing is reported
(`BreakpointStore.not_keptApart_shifted`).
-/
namespace EditorGutter

namespace BreakpointStore

variable {path : Text}

/-! ### The steps on the list of a file -/

/-- Where the breakpoint stands that a toggle on a line removes. -/
def position? (line : Number) (bs : List Breakpoint) : Option Nat :=
  bs.findIdx? fun b => b.line.equals line

theorem removeOnLine?_eq (line : Number) (bs : List Breakpoint) :
    removeOnLine? line bs = (position? line bs).map bs.eraseIdx := by
  induction bs with
  | nil => rfl
  | cons b rest ih =>
    unfold position? at ih ⊢
    rw [removeOnLine?, List.findIdx?_cons, ih]
    split
    · rfl
    · rw [Option.map_map, Option.map_map]
      rfl

/-- A toggle takes a breakpoint out of the list or adds one at its end. -/
theorem list_toggle (s : BreakpointStore) (path : Text) (line : Number) :
    (s.toggle path line).2.list path =
      match position? line (s.list path) with
      | some i => (s.list path).eraseIdx i
      | none => s.list path ++ [{ line := line, verified := false }] := by
  rw [toggle, removeOnLine?_eq]
  rcases position? line (s.list path) with - | i
  · exact list_set _ _ _
  · exact list_set _ _ _

/-- Merging goes position by position. -/
theorem getElem?_mergeAll (bs : List Breakpoint) (reports : List BreakpointReport) (j : Nat) :
    (mergeAll bs reports)[j]? =
      match reports[j]? with
      | some r => bs[j]?.map fun b => b.merge r
      | none => bs[j]? := by
  induction bs generalizing reports j with
  | nil => cases reports[j]? <;> simp [mergeAll]
  | cons b rest ih =>
    rcases reports with - | ⟨r, reports⟩
    · simp [mergeAll]
    · rcases j with - | j
      · rfl
      · exact ih reports j

/-! ### Requests on their way -/

/-- A store while the requests for a file are on their way: for each breakpoint of the file, the
position of the request that was sent for it, if one was. -/
structure InFlight where
  store : BreakpointStore
  sent : List (Option Nat)

/-- The requests for a file are sent. -/
def send (s : BreakpointStore) (path : Text) : InFlight :=
  ⟨s, (List.range (s.requests path).length).map some⟩

namespace InFlight

/-- A toggle; the requests of the other breakpoints stay theirs, and a new one has none. -/
def toggle (path : Text) (f : InFlight) (line : Number) : InFlight where
  store := (f.store.toggle path line).2
  sent :=
    match position? line (f.store.list path) with
    | some i => f.sent.eraseIdx i
    | none => f.sent ++ [none]

/-- Toggles, one after the other. -/
def toggles (path : Text) (f : InFlight) (lines : List Number) : InFlight :=
  lines.foldl (toggle path) f

/-- What is carried along is right: every breakpoint of the file has its entry, and one with the
position of a request is the breakpoint that the request was sent for. -/
structure Tracks (asked bs : List Breakpoint) (sent : List (Option Nat)) : Prop where
  length : sent.length = bs.length
  own : ∀ j i : Nat, sent[j]? = some (some i) → bs[j]? = asked[i]?

variable {f : InFlight} {asked bs : List Breakpoint} {sent : List (Option Nat)}

theorem tracks_send (s : BreakpointStore) (path : Text) :
    Tracks (s.list path) ((s.send path).store.list path) (s.send path).sent where
  length := by simp [send, requests]
  own := by
    intro j i h
    show (s.list path)[j]? = (s.list path)[i]?
    obtain ⟨k, hk, hki⟩ : ∃ k, (List.range (s.requests path).length)[j]? = some k ∧
        some k = some i := by simpa [send] using h
    obtain ⟨hj, rfl⟩ := List.getElem?_eq_some_iff.mp hk
    obtain rfl : j = i := by simpa using hki
    rfl

/-- The breakpoints after one that is removed move up together with their entries. -/
theorem Tracks.eraseIdx (h : Tracks asked bs sent) (k : Nat) :
    Tracks asked (bs.eraseIdx k) (sent.eraseIdx k) where
  length := by rw [List.length_eraseIdx, List.length_eraseIdx, h.length]
  own := by
    intro j i hj
    rw [List.getElem?_eraseIdx] at hj ⊢
    split
    · next hlt => exact h.own j i (by rwa [if_pos hlt] at hj)
    · next hlt => exact h.own (j + 1) i (by rwa [if_neg hlt] at hj)

/-- A new breakpoint has no request. -/
theorem Tracks.concat (h : Tracks asked bs sent) (b : Breakpoint) :
    Tracks asked (bs ++ [b]) (sent ++ [none]) where
  length := by rw [List.length_append, List.length_append, h.length]; rfl
  own := by
    intro j i hj
    rcases Nat.lt_or_ge j sent.length with hlt | hge
    · rw [List.getElem?_append_left hlt] at hj
      rw [List.getElem?_append_left (h.length ▸ hlt)]
      exact h.own j i hj
    · -- past the old entries there is only the new one
      rw [List.getElem?_append_right hge] at hj
      rcases hk : j - sent.length with - | k
      · rw [hk] at hj
        cases hj
      · rw [hk] at hj
        cases hj

theorem Tracks.toggle (h : Tracks asked (f.store.list path) f.sent) (line : Number) :
    Tracks asked ((f.toggle path line).store.list path) (f.toggle path line).sent := by
  unfold InFlight.toggle
  simp only [list_toggle]
  rcases position? line (f.store.list path) with - | k
  · exact h.concat _
  · exact h.eraseIdx k

theorem Tracks.toggles (h : Tracks asked (f.store.list path) f.sent) (lines : List Number) :
    Tracks asked ((f.toggles path lines).store.list path) (f.toggles path lines).sent := by
  induction lines generalizing f with
  | nil => exact h
  | cons line lines ih => exact ih (h.toggle line)

/-! ### Answers -/

/-- A breakpoint after an answer: still on its line, and with nothing from the answer unless it is
the report on the request that was sent for it. -/
structure Apart (reports : List BreakpointReport) (request : Option Nat) (b b' : Breakpoint) :
    Prop where
  line : b'.line = b.line
  own : (b'.verified = b.verified ∧ b'.id = b.id) ∨
    ∃ i r, request = some i ∧ reports[i]? = some r ∧
      b'.verified = r.verified ∧ b'.id = (r.id <|> b.id)

/-- An answer keeps the breakpoints of a file apart: each is still in its place afterwards. -/
def KeptApart (path : Text) (f : InFlight) (reports : List BreakpointReport) : Prop :=
  ∀ (j : Nat) b, (f.store.list path)[j]? = some b →
    ∃ request b', f.sent[j]? = some request ∧
      ((f.store.applyResponse path reports).list path)[j]? = some b' ∧
      Apart reports request b b'

/-- The file is in step with its requests: at the position of each request stands the breakpoint
that it was sent for, if any, and the line of that breakpoint survives being sent. -/
def InStep (path : Text) (f : InFlight) (count : Nat) : Prop :=
  ∀ (j : Nat) b, j < count → (f.store.list path)[j]? = some b →
    f.sent[j]? = some (some j) ∧ b.line + 1 - 1 = b.line

end InFlight

/-- An answer to requests: a report for each in order, on the line that was asked for. -/
def Answers (requests : List BreakpointRequest) (reports : List BreakpointReport) : Prop :=
  List.Forall₂ (fun q r => r.line = some q.line) requests reports

/-- The answer that tells breakpoint `j` from all others by its flag. -/
def tellingAnswer (requests : List BreakpointRequest) (j : Nat) (verified : Bool) :
    List BreakpointReport :=
  requests.mapIdx fun i q =>
    { verified := if i = j then !verified else verified, line := some q.line }

theorem answers_tellingAnswer (requests : List BreakpointRequest) (j : Nat) (verified : Bool) :
    Answers requests (tellingAnswer requests j verified) := by
  refine List.forall₂_iff_get.mpr ⟨by simp [tellingAnswer], ?_⟩
  intro i hi hi'
  simp [tellingAnswer]

section

variable {s : BreakpointStore} {lines : List Number}

/-- The report at a position is on the line of the breakpoint that stood there, as it was sent. -/
theorem line_of_answers {reports : List BreakpointReport} (h : Answers (s.requests path) reports)
    {j : Nat} {r : BreakpointReport} {b : Breakpoint} (hr : reports[j]? = some r)
    (hb : (s.list path)[j]? = some b) : r.line = some (b.line + 1) := by
  obtain ⟨hlength, hline⟩ := List.forall₂_iff_get.mp h
  obtain ⟨hj, rfl⟩ := List.getElem?_eq_some_iff.mp hr
  have hjq : j < (s.requests path).length := hlength ▸ hj
  have hq : (s.requests path)[j]? = some b.request := by
    rw [requests, List.getElem?_map, hb]
    rfl
  obtain ⟨_, hqj⟩ := List.getElem?_eq_some_iff.mp hq
  have hreport := hline j hjq hj
  rw [List.get_eq_getElem, List.get_eq_getElem, hqj] at hreport
  exact hreport

theorem getElem?_applyResponse (s : BreakpointStore) (path : Text)
    (reports : List BreakpointReport) (j : Nat) :
    ((s.applyResponse path reports).list path)[j]? =
      match reports[j]? with
      | some r => (s.list path)[j]?.map fun b => b.merge r
      | none => (s.list path)[j]? := by
  rw [applyResponse, list_set]
  exact getElem?_mergeAll _ _ _

/-- In step with its requests, a file takes every answer to them apart. -/
theorem keptApart_of_inStep
    (h : ((s.send path).toggles path lines).InStep path (s.requests path).length)
    {reports : List BreakpointReport} (hreports : Answers (s.requests path) reports) :
    ((s.send path).toggles path lines).KeptApart path reports := by
  have htracks := (InFlight.tracks_send s path).toggles lines
  intro j b hb
  have hafter := getElem?_applyResponse ((s.send path).toggles path lines).store path reports j
  rcases hr : reports[j]? with - | r
  · -- no report: the breakpoint is as it was, whatever was sent for it
    rw [hr, hb] at hafter
    obtain ⟨hlt, -⟩ := List.getElem?_eq_some_iff.mp hb
    refine ⟨_, b, List.getElem?_eq_getElem (htracks.length ▸ hlt), hafter, rfl, .inl ⟨rfl, rfl⟩⟩
  · rw [hr, hb] at hafter
    have hj : j < (s.requests path).length := by
      obtain ⟨hlt, -⟩ := List.getElem?_eq_some_iff.mp hr
      exact hreports.length_eq ▸ hlt
    obtain ⟨hsent, hsurvives⟩ := h j b hj hb
    refine ⟨some j, b.merge r, hsent, hafter, ?_, .inr ⟨j, r, rfl, hr, rfl, rfl⟩⟩
    -- the breakpoint is the one that was asked about, so the report is on its own line
    have hrline := line_of_answers hreports hr ((htracks.own j j hsent).symm.trans hb)
    have hmerge : (b.merge r).line = b.line + 1 - 1 := by simp only [Breakpoint.merge, hrline]
    exact hmerge.trans hsurvives

/-- A file that takes every answer apart is in step with its requests. -/
theorem inStep_of_keptApart
    (h : ∀ reports, Answers (s.requests path) reports →
      ((s.send path).toggles path lines).KeptApart path reports) :
    ((s.send path).toggles path lines).InStep path (s.requests path).length := by
  have htracks := (InFlight.tracks_send s path).toggles lines
  intro j b hj hb
  -- this answer changes the flag of the breakpoint, and no other report has that flag
  have hanswers := answers_tellingAnswer (s.requests path) j b.verified
  obtain ⟨r, hr, hflag⟩ : ∃ r, (tellingAnswer (s.requests path) j b.verified)[j]? = some r ∧
      r.verified = !b.verified := by
    refine ⟨{ verified := !b.verified, line := some (s.requests path)[j].line }, ?_, rfl⟩
    simp [tellingAnswer, hj]
  obtain ⟨request, b', hrequest, hafter, hline, hown⟩ := h _ hanswers j b hb
  obtain rfl : b.merge r = b' := by
    rw [getElem?_applyResponse, hr, hb] at hafter
    exact Option.some.inj hafter
  have hchanged : (b.merge r).verified ≠ b.verified := by
    show r.verified ≠ b.verified
    rw [hflag]
    exact (Bool.not_eq_self _).mp
  obtain ⟨i, r', rfl, hri, hverified, -⟩ := hown.resolve_left fun hsame => hchanged hsame.1
  obtain rfl : i = j := by
    by_contra hij
    apply hchanged
    obtain ⟨hi, rfl⟩ := List.getElem?_eq_some_iff.mp hri
    rw [hverified]
    simp [tellingAnswer, hij]
  refine ⟨hrequest, ?_⟩
  -- its own report puts it on the line that was asked for, less one
  have hrline := line_of_answers hanswers hr ((htracks.own i i hrequest).symm.trans hb)
  have hmerge : (b.merge r).line = b.line + 1 - 1 := by simp only [Breakpoint.merge, hrline]
  exact hmerge.symm.trans hline

/-- **Answers to requests keep the breakpoints apart exactly if the file is in step with the
requests** after the toggles in between. -/
theorem keptApart_iff (s : BreakpointStore) (path : Text) (lines : List Number) :
    (∀ reports, Answers (s.requests path) reports →
      ((s.send path).toggles path lines).KeptApart path reports) ↔
    ((s.send path).toggles path lines).InStep path (s.requests path).length := by
  constructor
  · exact inStep_of_keptApart
  · intro h reports hreports
    exact keptApart_of_inStep h hreports

/-- With breakpoints on lines 4 and 9, taking the first away and adding one on line 20 leaves two
breakpoints for the two reports: the one on line 9 moves to line 4 and takes the report there. -/
theorem not_keptApart_shifted :
    let path := Text.ofString "/tmp/example.ts"
    let s := empty.set path [{ line := 4, verified := false }, { line := 9, verified := false }]
    let f := (s.send path).toggles path [4, 20]
    let reports := [{ id := some 1, verified := true, line := some 5 },
      { verified := false, line := some 10 }]
    Answers (s.requests path) reports ∧
      (f.store.applyResponse path reports).list path =
        [{ line := 4, verified := true, id := some 1 }, { line := 9, verified := false }] ∧
      ¬ f.KeptApart path reports := by
  intro path s f reports
  have hanswers : Answers (s.requests path) reports :=
    .cons (by decide +kernel) (.cons (by decide +kernel) .nil)
  have hafter : (f.store.applyResponse path reports).list path =
      [{ line := 4, verified := true, id := some 1 }, { line := 9, verified := false }] := by
    decide +kernel
  refine ⟨hanswers, hafter, ?_⟩
  intro h
  obtain ⟨request, b', -, hb', hline, -⟩ :=
    h 0 { line := 9, verified := false } (by decide +kernel)
  rw [hafter] at hb'
  obtain rfl := Option.some.inj hb'
  exact absurd hline (by decide)

/-! ### Toggles that stay in step -/

/-- The file still has the breakpoints sent, in front of those added since. -/
def InFlight.Extends (path : Text) (asked : List Breakpoint) (f : InFlight) : Prop :=
  ∃ added, f.store.list path = asked ++ added ∧
    f.sent = (List.range asked.length).map some ++ added.map fun _ => none

theorem InFlight.Extends.toggle {f : InFlight} {asked : List Breakpoint} {line : Number}
    (h : f.Extends path asked) (hline : position? line asked = none) :
    (f.toggle path line).Extends path asked := by
  obtain ⟨added, hlist, hsent⟩ := h
  have hposition : position? line (asked ++ added) =
      (position? line added).map (· + asked.length) := by
    unfold position? at hline ⊢
    rw [List.findIdx?_append, hline]
    rfl
  unfold InFlight.toggle InFlight.Extends
  simp only [list_toggle, hlist, hsent, hposition]
  rcases position? line added with - | k
  · -- one more was added
    refine ⟨added ++ [{ line := line, verified := false }], List.append_assoc .., ?_⟩
    rw [List.map_append]
    exact List.append_assoc ..
  · -- one that was added is taken away again
    refine ⟨added.eraseIdx k, ?_, ?_⟩
    · show (asked ++ added).eraseIdx (k + asked.length) = _
      rw [List.eraseIdx_append_of_length_le (Nat.le_add_left _ _), Nat.add_sub_cancel]
    · show (_ ++ added.map fun _ => none).eraseIdx (k + asked.length) = _
      have hlength : ((List.range asked.length).map some).length = asked.length := by simp
      rw [List.eraseIdx_append_of_length_le (by omega), hlength, Nat.add_sub_cancel,
        List.eraseIdx_map]

theorem InFlight.Extends.toggles {f : InFlight} {asked : List Breakpoint}
    (h : f.Extends path asked) (hlines : ∀ line ∈ lines, position? line asked = none) :
    (f.toggles path lines).Extends path asked := by
  induction lines generalizing f with
  | nil => exact h
  | cons line lines ih =>
    obtain ⟨hline, hrest⟩ := List.forall_mem_cons.mp hlines
    exact ih (h.toggle hline) hrest

/-- Toggles that hit no breakpoint sent leave the file in step with its requests, if these were
for lines that can be counted. -/
theorem inStep_toggles (hlines : ∀ line ∈ lines, position? line (s.list path) = none)
    (hcounts : ∀ b ∈ s.list path, ∃ l : Nat, l < Number.wholeLimit ∧ b.line = (l : Number)) :
    ((s.send path).toggles path lines).InStep path (s.requests path).length := by
  have hsend : (s.send path).Extends path (s.list path) := by
    refine ⟨[], (List.append_nil _).symm, ?_⟩
    show (List.range ((s.list path).map Breakpoint.request).length).map some = _
    rw [List.length_map, List.map_nil, List.append_nil]
  obtain ⟨added, hlist, hsent⟩ := hsend.toggles hlines
  intro j b hj hb
  rw [requests, List.length_map] at hj
  rw [hlist, List.getElem?_append_left hj] at hb
  refine ⟨?_, ?_⟩
  · rw [hsent, List.getElem?_append_left (by simpa using hj)]
    simp [hj]
  · obtain ⟨l, hl, hline⟩ := hcounts b (List.mem_of_getElem? hb)
    rw [hline]
    exact Number.add_one_sub_one hl

end

end BreakpointStore

end EditorGutter
