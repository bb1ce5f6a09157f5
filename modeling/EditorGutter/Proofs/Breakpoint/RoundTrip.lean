import EditorGutter.Proofs.Breakpoint.InFlight

/-!
Answers that repeat their requests.

A line or column is sent with one added, and one is taken off again when it comes back.  So an
answer that repeats what was asked for should leave a breakpoint where it is and confirm it, with
the name and message that come along (`Breakpoint.confirmed`).  It does for every whole number
that can be counted from one side of zero to the other (`Number.returns_intCast`), and not for all
numbers: adding one to 2^53 adds nothing, and taking one off does.

The main result (`BreakpointStore.applyResponse_repeating`) gives the list after such an answer and
says exactly when the user's part of it is the one before, and when the next request is the same:
when each number that was repeated comes back as it was, or goes out again as it went.
-/
namespace EditorGutter

/-! ### Numbers on the wire -/

namespace Number

variable {x : Number}

/-- A number that comes back from the wire as it was. -/
def Returns (x : Number) : Prop := x + 1 - 1 = x

/-- A number that is sent as before when it has come back. -/
def SentAgain (x : Number) : Prop := x + 1 - 1 + 1 = x + 1

instance (x : Number) : Decidable x.Returns := inferInstanceAs (Decidable (x + 1 - 1 = x))

instance (x : Number) : Decidable x.SentAgain := inferInstanceAs (Decidable (x + 1 - 1 + 1 = x + 1))

theorem Returns.sentAgain (h : x.Returns) : x.SentAgain := congrArg (· + 1) h

/-- A whole number with room above it comes back. -/
theorem returns_intCast {i : Int} (hlow : -(wholeLimit : Int) ≤ i) (hhigh : i < wholeLimit) :
    (i : Number).Returns := by
  have hout : (i : Number) + ((1 : Int) : Number) = ((i + 1 : Int) : Number) :=
    add_intCast (by omega)
  have hback : ((i + 1 : Int) : Number) - ((1 : Int) : Number) = ((i + 1 - 1 : Int) : Number) :=
    sub_intCast (by omega)
  rw [Int.add_sub_cancel] at hback
  exact (congrArg (· - ((1 : Int) : Number)) hout).trans hback

end Number

/-! ### One breakpoint -/

/-- A report that moves nothing: a line or column in it is the one asked for. -/
structure BreakpointReport.Repeats (r : BreakpointReport) (q : BreakpointRequest) : Prop where
  line : r.line = none ∨ r.line = some q.line
  column : r.column = none ∨ r.column = q.column

instance (r : BreakpointReport) (q : BreakpointRequest) : Decidable (r.Repeats q) :=
  decidable_of_iff
    ((r.line = none ∨ r.line = some q.line) ∧ (r.column = none ∨ r.column = q.column))
    ⟨fun h => ⟨h.1, h.2⟩, fun h => ⟨h.line, h.column⟩⟩

namespace Breakpoint

/-- A breakpoint after an answer that repeats its request: confirmed as the report says, with a
line or column that was repeated back from the wire. -/
def confirmed (b : Breakpoint) : Option BreakpointReport → Breakpoint
  | none => b
  | some r =>
    { b with
      verified := r.verified
      id := r.id <|> b.id
      message := r.message <|> b.message
      line := if r.line.isSome then b.line + 1 - 1 else b.line
      column := if r.column.isSome then b.column.map (· + 1 - 1) else b.column }

/-- The part of a breakpoint that the user has set. -/
def bare (b : Breakpoint) : Breakpoint := { b with verified := false, id := none, message := none }

/-- The numbers of a breakpoint that a report repeats. -/
def repeated (b : Breakpoint) (r : BreakpointReport) : List Number :=
  (if r.line.isSome then [b.line] else []) ++ if r.column.isSome then b.column.toList else []

variable {b : Breakpoint} {r : BreakpointReport}

theorem merge_eq_confirmed (h : r.Repeats b.request) : b.merge r = b.confirmed (some r) := by
  have hline : (b.merge r).line = if r.line.isSome then b.line + 1 - 1 else b.line := by
    rcases h.line with hr | hr
    · simp [merge, hr]
    · simp [merge, hr, request]
  have hcolumn : (b.merge r).column =
      if r.column.isSome then b.column.map (· + 1 - 1) else b.column := by
    rcases h.column with hr | hr
    · simp [merge, hr]
    · -- a column can be repeated only where the breakpoint has one
      rcases hb : b.column with - | c
      · simp [merge, hr, request, hb]
      · simp [merge, hr, request, hb]
  show { b.merge r with line := (b.merge r).line, column := (b.merge r).column } = _
  rw [hline, hcolumn]
  rfl

/-- What is read off the line and the column is as before exactly if it is for each number that was
repeated. -/
theorem confirmed_agrees_iff (g : Number → Number) (b : Breakpoint) (r : BreakpointReport) :
    (g (b.confirmed (some r)).line = g b.line ∧
      (b.confirmed (some r)).column.map g = b.column.map g) ↔
    ∀ x ∈ b.repeated r, g (x + 1 - 1) = g x := by
  have hline : g (b.confirmed (some r)).line = g b.line ↔
      ∀ x ∈ if r.line.isSome then [b.line] else [], g (x + 1 - 1) = g x := by
    rcases hr : r.line with - | line
    · simp [confirmed, hr]
    · simp [confirmed, hr]
  have hcolumn : (b.confirmed (some r)).column.map g = b.column.map g ↔
      ∀ x ∈ if r.column.isSome then b.column.toList else [], g (x + 1 - 1) = g x := by
    rcases hr : r.column with - | column
    · simp [confirmed, hr]
    · rcases hb : b.column with - | c
      · simp [confirmed, hr, hb]
      · simp [confirmed, hr, hb]
  rw [hline, hcolumn, repeated, List.forall_mem_append]

theorem bare_confirmed_iff (b : Breakpoint) (r : BreakpointReport) :
    (b.confirmed (some r)).bare = b.bare ↔ ∀ x ∈ b.repeated r, x.Returns := by
  unfold Number.Returns
  rw [← confirmed_agrees_iff (fun x => x), bare, bare]
  simp [confirmed]

theorem request_confirmed_iff (b : Breakpoint) (r : BreakpointReport) :
    (b.confirmed (some r)).request = b.request ↔ ∀ x ∈ b.repeated r, x.SentAgain := by
  unfold Number.SentAgain
  rw [← confirmed_agrees_iff (· + 1), request, request]
  simp [confirmed]

end Breakpoint

namespace BreakpointStore

open Breakpoint

/-! ### All breakpoints of a file -/

/-- The numbers of breakpoints that the reports at their positions repeat. -/
def repeated (bs : List Breakpoint) (reports : List BreakpointReport) : List Number :=
  (bs.zip reports).flatMap fun br => br.1.repeated br.2

variable {s : BreakpointStore} {path : Text} {bs : List Breakpoint}
variable {reports : List BreakpointReport}

theorem mergeAll_eq_mapIdx
    (h : ∀ qr ∈ (bs.map Breakpoint.request).zip reports, qr.2.Repeats qr.1) :
    mergeAll bs reports = bs.mapIdx fun i b => b.confirmed reports[i]? := by
  apply List.ext_getElem?
  intro i
  rw [getElem?_mergeAll, List.getElem?_mapIdx]
  rcases hr : reports[i]? with - | r
  · simp [confirmed]
  · rcases hb : bs[i]? with - | b
    · rfl
    · have hmem : (b.request, r) ∈ (bs.map Breakpoint.request).zip reports := by
        apply List.mem_of_getElem? (i := i)
        simp [List.getElem?_zip_eq_some, hb, hr]
      exact congrArg some (merge_eq_confirmed (h _ hmem))

/-- What agrees for each breakpoint agrees for all of them. -/
theorem map_confirmed_iff {α : Type} (f : Breakpoint → α) (p : Number → Prop)
    (h : ∀ b r, f (b.confirmed (some r)) = f b ↔ ∀ x ∈ b.repeated r, p x)
    (bs : List Breakpoint) (reports : List BreakpointReport) :
    (bs.mapIdx fun i b => b.confirmed reports[i]?).map f = bs.map f ↔
      ∀ x ∈ repeated bs reports, p x := by
  induction bs generalizing reports with
  | nil => simp [repeated]
  | cons b rest ih =>
    rcases reports with - | ⟨r, reports⟩
    · have hsame : (b :: rest).mapIdx (fun i b => b.confirmed ([] : List BreakpointReport)[i]?) =
          b :: rest := List.mapIdx_eq_iff.mpr fun i => by simp [confirmed]
      rw [hsame]
      simp [repeated]
    · -- the other reports stand one position further on, as the other breakpoints do
      have hsplit : repeated (b :: rest) (r :: reports) = b.repeated r ++ repeated rest reports :=
        rfl
      rw [List.mapIdx_cons, List.map_cons, List.map_cons, List.cons.injEq, hsplit,
        List.forall_mem_append, ← h, ← ih]
      rfl

/-- An answer that repeats its requests confirms the breakpoints of the file one by one. -/
theorem applyResponse_eq_set (hget : s.get? path = some bs)
    (hrepeats : ∀ qr ∈ (s.requests path).zip reports, qr.2.Repeats qr.1) :
    s.applyResponse path reports = s.set path (bs.mapIdx fun i b => b.confirmed reports[i]?) := by
  have hlist : s.list path = bs := list_of_get? hget
  rw [requests, hlist] at hrepeats
  rw [applyResponse, hlist, mergeAll_eq_mapIdx hrepeats]

theorem mergeAll_take (bs : List Breakpoint) (reports : List BreakpointReport) :
    mergeAll bs (reports.take bs.length) = mergeAll bs reports := by
  induction bs generalizing reports with
  | nil => simp [mergeAll]
  | cons b rest ih =>
    rcases reports with - | ⟨r, reports⟩
    · rfl
    · exact congrArg (b.merge r :: ·) (ih reports)

/-- Reports beyond the last breakpoint do nothing. -/
theorem applyResponse_take (s : BreakpointStore) (path : Text) (reports : List BreakpointReport) :
    s.applyResponse path (reports.take (s.list path).length) = s.applyResponse path reports := by
  rw [applyResponse, applyResponse, mergeAll_take]

/-- **An answer that repeats its requests confirms the breakpoints in their places.**  Each takes
what the report at its position says, and stays as it is if there is none; reports beyond the last
breakpoint and other files do not matter.  What the user has set is as before exactly if each
number that was repeated comes back, and the next requests are the same exactly if each goes out
again as it went; both hold for whole numbers with room above them. -/
theorem applyResponse_repeating (hget : s.get? path = some bs)
    (hrepeats : ∀ qr ∈ (s.requests path).zip reports, qr.2.Repeats qr.1) :
    let s' := s.applyResponse path reports
    let bs' := bs.mapIdx fun i b => b.confirmed reports[i]?
    s'.get? path = some bs' ∧
    (bs'.map bare = bs.map bare ↔ ∀ x ∈ repeated bs reports, x.Returns) ∧
    (s'.requests path = s.requests path ↔ ∀ x ∈ repeated bs reports, x.SentAgain) ∧
    ((∀ x ∈ repeated bs reports, ∃ i : Int,
        -(Number.wholeLimit : Int) ≤ i ∧ i < Number.wholeLimit ∧ x = (i : Number)) →
      bs'.map bare = bs.map bare ∧ s'.requests path = s.requests path) ∧
    s.applyResponse path (reports.take bs.length) = s' ∧
    s'.paths = s.paths ∧ ∀ other, other ≠ path → s'.get? other = s.get? other := by
  intro s' bs'
  have hs' : s' = s.set path bs' := applyResponse_eq_set hget hrepeats
  have hlist : s.list path = bs := list_of_get? hget
  have hbare : bs'.map bare = bs.map bare ↔ ∀ x ∈ repeated bs reports, x.Returns :=
    map_confirmed_iff _ _ bare_confirmed_iff _ _
  have hasked : s'.requests path = s.requests path ↔ ∀ x ∈ repeated bs reports, x.SentAgain := by
    rw [requests, requests, hs', list_set, hlist]
    exact map_confirmed_iff _ _ request_confirmed_iff _ _
  refine ⟨?_, hbare, hasked, ?_, ?_, ?_, ?_⟩
  · rw [hs', get?_set, if_pos rfl]
  · intro hwhole
    have hreturns : ∀ x ∈ repeated bs reports, x.Returns := by
      intro x hx
      obtain ⟨i, hlow, hhigh, rfl⟩ := hwhole x hx
      exact Number.returns_intCast hlow hhigh
    exact ⟨hbare.mpr hreturns, hasked.mpr fun x hx => (hreturns x hx).sentAgain⟩
  · rw [← hlist]
    exact applyResponse_take s path reports
  · rw [hs', paths_set_of_mem (mem_paths_of_get? hget)]
  · intro other hother
    rw [hs', get?_set, if_neg (Ne.symm hother)]

/-- Two files; in one, two of three breakpoints are answered for, the first on its line and
column. -/
theorem applyResponse_repeating_short :
    let path := Text.ofString "/a.ts"
    let other := Text.ofString "/b.ts"
    let bs : List Breakpoint :=
      [{ line := 4, verified := false, column := some 2,
          condition := some (Text.ofString "x > 1") },
        { line := 9, verified := true, id := some 3 }, { line := 12, verified := false }]
    let s := (empty.set other [{ line := 0, verified := false }]).set path bs
    let reports : List BreakpointReport :=
      [{ verified := true, id := some 1, line := some 5, column := some 3 },
        { verified := false, message := some (Text.ofString "no code") }]
    let s' := s.applyResponse path reports
    s.get? path = some bs ∧ (∀ qr ∈ (s.requests path).zip reports, qr.2.Repeats qr.1) ∧
      s'.get? path = some
        [{ line := 4, verified := true, id := some 1, column := some 2,
            condition := some (Text.ofString "x > 1") },
          { line := 9, verified := false, id := some 3, message := some (Text.ofString "no code") },
          { line := 12, verified := false }] ∧
      s'.requests path = s.requests path ∧ s'.get? other = s.get? other := by
  intro path other bs s reports s'
  have hget : s.get? path = some bs := by decide +kernel
  have hrepeats : ∀ qr ∈ (s.requests path).zip reports, qr.2.Repeats qr.1 := by decide +kernel
  obtain ⟨hbs', -, hasked, -, -, -, hother⟩ := applyResponse_repeating hget hrepeats
  refine ⟨hget, hrepeats, hbs'.trans (by decide +kernel), hasked.mpr (by decide +kernel), ?_⟩
  exact hother other (by decide +kernel)

/-- On lines of sixteen digits the way over the wire and back is not exact: a breakpoint on line
2^53 comes back one line earlier, and one on line -2^53 - 2 two lines later, to be asked for
elsewhere the next time. -/
theorem not_kept_at_large_lines :
    let path := Text.ofString "/tmp/example.ts"
    let bs : List Breakpoint := [{ line := 9007199254740992, verified := false },
      { line := -9007199254740994, verified := false }]
    let s := empty.set path bs
    let reports : List BreakpointReport :=
      (s.requests path).map fun q => { verified := true, line := some q.line }
    let s' := s.applyResponse path reports
    s.get? path = some bs ∧ (∀ qr ∈ (s.requests path).zip reports, qr.2.Repeats qr.1) ∧
      s'.get? path = some [{ line := 9007199254740991, verified := true },
        { line := -9007199254740992, verified := true }] ∧
      (s'.list path).map bare ≠ (s.list path).map bare ∧
      s'.requests path ≠ s.requests path := by
  decide +kernel

end BreakpointStore

end EditorGutter
