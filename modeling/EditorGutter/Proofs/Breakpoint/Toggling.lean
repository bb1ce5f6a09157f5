import EditorGutter.Breakpoint.Store
import Mathlib.Algebra.Ring.Parity

/-!
Toggling the breakpoints of a file over and over.

A toggle takes the first breakpoint on its line out of the list of the file, or puts an unconfirmed
one at the end; `Toggle` lists the two cases, and `toggle_toggle` says that there are no others.
What one toggle keeps is read off the cases: the lines of a file stay different from each other
(`Toggle.linesApart`), other lines keep what they have (`Toggle.filter_eq`), and its own line has a
breakpoint afterwards exactly if it had none (`Toggle.marked_self`).

The main result (`toggleAll_parity`) is what any number of toggles comes to (`Toggled`): a line ends
up with a breakpoint according to whether it had one and how often it was toggled.  A line here is
any number but NaN, which no line equals.
-/
namespace EditorGutter

/-- A breakpoint as a toggle adds it: on its line, not confirmed, and nothing else. -/
def Breakpoint.fresh (line : Number) : Breakpoint := { line := line, verified := false }

namespace BreakpointStore

/-- Some breakpoint of a list is on a line. -/
def Marked (line : Number) (bs : List Breakpoint) : Prop := ∃ b ∈ bs, b.line.equals line = true

/-- No two breakpoints of a list are on one line. -/
def LinesApart (bs : List Breakpoint) : Prop :=
  bs.Pairwise fun b b' => b.line.equals b'.line = false

/-! ### One toggle -/

/-- What a toggle on a line does to a list, with the flag that it gives. -/
inductive Toggle (line : Number) : List Breakpoint → Bool → List Breakpoint → Prop
  | remove {before after : List Breakpoint} {b : Breakpoint}
    (hbefore : ∀ c ∈ before, c.line.equals line = false) (hb : b.line.equals line = true) :
    Toggle line (before ++ b :: after) false (before ++ after)
  | add {bs : List Breakpoint} (h : ∀ b ∈ bs, b.line.equals line = false) :
    Toggle line bs true (bs ++ [.fresh line])

variable {line line' : Number} {path path' : Text} {bs bs' before after : List Breakpoint}
variable {b : Breakpoint} {added : Bool} {s : BreakpointStore}

theorem removeOnLine?_append (hbefore : ∀ c ∈ before, c.line.equals line = false)
    (hb : b.line.equals line = true) :
    removeOnLine? line (before ++ b :: after) = some (before ++ after) := by
  induction before with
  | nil => exact if_pos hb
  | cons c before ih =>
    obtain ⟨hc, hrest⟩ := List.forall_mem_cons.mp hbefore
    rw [List.cons_append, removeOnLine?, hc, ih hrest]
    rfl

theorem removeOnLine?_eq_none (h : ∀ b ∈ bs, b.line.equals line = false) :
    removeOnLine? line bs = none := by
  induction bs with
  | nil => rfl
  | cons b rest ih =>
    obtain ⟨hb, hrest⟩ := List.forall_mem_cons.mp h
    rw [removeOnLine?, hb, ih hrest]
    rfl

theorem toggle_of_first (hlist : s.list path = before ++ b :: after)
    (hbefore : ∀ c ∈ before, c.line.equals line = false) (hb : b.line.equals line = true) :
    s.toggle path line = (false, s.set path (before ++ after)) := by
  rw [toggle, hlist, removeOnLine?_append hbefore hb]

theorem toggle_of_forall (h : ∀ b ∈ s.list path, b.line.equals line = false) :
    s.toggle path line = (true, s.set path (s.list path ++ [.fresh line])) := by
  rw [toggle, removeOnLine?_eq_none h]
  rfl

theorem forall_of_not_marked (h : ¬ Marked line bs) : ∀ b ∈ bs, b.line.equals line = false := by
  intro b hb
  exact Bool.not_eq_true _ ▸ fun hline => h ⟨b, hb, hline⟩

/-- A toggle removes the first breakpoint on its line, or adds one. -/
theorem toggle_toggle (s : BreakpointStore) (path : Text) (line : Number) :
    Toggle line (s.list path) (s.toggle path line).1 ((s.toggle path line).2.list path) := by
  by_cases hmarked : Marked line (s.list path)
  · obtain ⟨b, hfind⟩ := Option.isSome_iff_exists.mp (List.find?_isSome.mpr hmarked)
    obtain ⟨hb, before, after, hlist, hbefore⟩ := List.find?_eq_some_iff_append.mp hfind
    have hfirst : ∀ c ∈ before, c.line.equals line = false := by simpa using hbefore
    rw [toggle_of_first hlist hfirst hb, hlist, list_set]
    exact .remove hfirst hb
  · have hnone := forall_of_not_marked hmarked
    rw [toggle_of_forall hnone, list_set]
    exact .add hnone

namespace Toggle

/-- The flag tells whether the line had no breakpoint. -/
theorem added_iff (h : Toggle line bs added bs') : added = true ↔ ¬ Marked line bs := by
  cases h with
  | @remove before after b _ hb =>
    have hmarked : Marked line (before ++ b :: after) :=
      ⟨b, List.mem_append_right _ List.mem_cons_self, hb⟩
    exact ⟨nofun, fun hnot => absurd hmarked hnot⟩
  | add hnone =>
    refine ⟨fun _ => ?_, fun _ => rfl⟩
    rintro ⟨b, hb, hline⟩
    exact Bool.false_ne_true ((hnone b hb).symm.trans hline)

theorem linesApart (h : Toggle line bs added bs') (hbs : LinesApart bs) : LinesApart bs' := by
  cases h with
  | remove _ _ => exact hbs.sublist ((List.sublist_cons_self _ _).append_left _)
  | add hnone =>
    refine List.pairwise_append.mpr ⟨hbs, List.pairwise_singleton _ _, ?_⟩
    intro b hb b' hb'
    obtain rfl := List.mem_singleton.mp hb'
    exact hnone b hb

/-- Whatever is picked out of the breakpoints on other lines is picked out again, in its order. -/
theorem filter_eq (h : Toggle line bs added bs') {p : Breakpoint → Bool}
    (hp : ∀ b, b.line = line → p b = false) : bs'.filter p = bs.filter p := by
  cases h with
  | remove _ hb =>
    have hremoved : p _ = false := hp _ (Number.equals_iff.mp hb).1
    rw [List.filter_append, List.filter_append, List.filter_cons, hremoved]
    rfl
  | add _ =>
    have hfresh : p (.fresh line) = false := hp _ rfl
    rw [List.filter_append, List.filter_cons, hfresh]
    exact List.append_nil _

theorem marked_of_ne (h : Toggle line bs added bs') (hne : line' ≠ line) :
    Marked line' bs' ↔ Marked line' bs := by
  have hfilter := h.filter_eq (p := fun b => b.line.equals line') fun b hb => by
    rw [← Bool.not_eq_true, Number.equals_iff, hb]
    exact fun heq => hne heq.1.symm
  have hmarked : ∀ l : List Breakpoint,
      Marked line' l ↔ l.filter (fun b => b.line.equals line') ≠ [] := by
    intro l
    simp [Marked]
  rw [hmarked, hmarked, hfilter]

/-- A breakpoint that is on the line afterwards has just been added. -/
theorem eq_fresh (h : Toggle line bs added bs') (hbs : LinesApart bs) (hline : line ≠ .nan)
    (hb : b ∈ bs') (hon : b.line = line) : b = .fresh line ∧ added = true := by
  have hequals : b.line.equals line = true := Number.equals_iff.mpr ⟨hon, hon ▸ hline⟩
  cases h with
  | remove hbefore hremoved =>
    -- it would have been on one line with the one that was removed
    obtain ⟨-, hafter, -⟩ := List.pairwise_append.mp hbs
    rcases List.mem_append.mp hb with hb | hb
    · exact absurd hequals (Bool.not_eq_true _ ▸ hbefore b hb)
    · have hapart := (List.pairwise_cons.mp hafter).1 b hb
      rw [hon, hremoved] at hapart
      cases hapart
  | add hnone =>
    rcases List.mem_append.mp hb with hb | hb
    · exact absurd hequals (Bool.not_eq_true _ ▸ hnone b hb)
    · exact ⟨List.mem_singleton.mp hb, rfl⟩

/-- The line has a breakpoint afterwards exactly if it had none. -/
theorem marked_self (h : Toggle line bs added bs') (hbs : LinesApart bs) (hline : line ≠ .nan) :
    Marked line bs' ↔ ¬ Marked line bs := by
  rw [← h.added_iff]
  constructor
  · rintro ⟨b, hb, hon⟩
    exact (h.eq_fresh hbs hline hb (Number.equals_iff.mp hon).1).2
  · rintro rfl
    cases h with
    | add _ =>
      refine ⟨.fresh line, List.mem_append_right _ List.mem_cons_self, ?_⟩
      exact Number.equals_iff.mpr ⟨rfl, hline⟩

end Toggle

/-- On a line without a breakpoint, two toggles leave the list as it was. -/
theorem list_toggle_toggle (hline : line ≠ .nan) (h : ¬ Marked line (s.list path)) :
    ((s.toggle path line).2.toggle path line).2.list path = s.list path := by
  have hnone := forall_of_not_marked h
  have hadded : (s.toggle path line).2.list path = s.list path ++ [.fresh line] := by
    rw [toggle_of_forall hnone, list_set]
  have hfresh : (Breakpoint.fresh line).line.equals line = true :=
    Number.equals_iff.mpr ⟨rfl, hline⟩
  rw [toggle_of_first hadded hnone hfresh, list_set, List.append_nil]

theorem get?_toggle_of_ne (s : BreakpointStore) (line : Number) (h : path' ≠ path) :
    (s.toggle path line).2.get? path' = s.get? path' := by
  unfold toggle
  split
  · exact (s.get?_set ..).trans (if_neg h.symm)
  · exact (s.get?_set ..).trans (if_neg h.symm)

/-! ### Runs of toggles -/

variable {lines : List Number}

/-- The store after toggles on lines of a file, one after the other. -/
def toggleAll (s : BreakpointStore) (path : Text) (lines : List Number) : BreakpointStore :=
  lines.foldl (fun s line => (s.toggle path line).2) s

theorem toggleAll_cons (s : BreakpointStore) (path : Text) (line : Number) (lines : List Number) :
    s.toggleAll path (line :: lines) = (s.toggle path line).2.toggleAll path lines := rfl

theorem linesApart_toggleAll (h : LinesApart (s.list path)) :
    LinesApart ((s.toggleAll path lines).list path) := by
  induction lines generalizing s with
  | nil => exact h
  | cons line lines ih => exact ih ((toggle_toggle s path line).linesApart h)

theorem filter_toggleAll {p : Breakpoint → Bool} (hp : ∀ b, b.line ∈ lines → p b = false) :
    ((s.toggleAll path lines).list path).filter p = (s.list path).filter p := by
  induction lines generalizing s with
  | nil => rfl
  | cons line lines ih =>
    have hline : ∀ b : Breakpoint, b.line = line → p b = false :=
      fun b hb => hp b (hb ▸ List.mem_cons_self)
    rw [toggleAll_cons, ih fun b hb => hp b (List.mem_cons_of_mem _ hb)]
    exact (toggle_toggle s path line).filter_eq hline

/-- Each toggle of a line turns its having a breakpoint around, and no other does. -/
theorem marked_toggleAll (h : LinesApart (s.list path)) (hlines : ∀ l ∈ lines, l ≠ .nan)
    (line : Number) :
    Marked line ((s.toggleAll path lines).list path) ↔
      Xor (Marked line (s.list path)) (Odd (lines.count line)) := by
  induction lines generalizing s with
  | nil =>
    rw [List.count_nil, xor_iff_iff_not]
    simp [toggleAll]
  | cons first lines ih =>
    obtain ⟨hfirst, hrest⟩ := List.forall_mem_cons.mp hlines
    have hstep := toggle_toggle s path first
    rw [toggleAll_cons, ih (hstep.linesApart h) hrest]
    by_cases hline : line = first
    · rw [hline, hstep.marked_self h hfirst, List.count_cons_self, Nat.odd_add_one,
        xor_not_left, xor_not_right]
    · rw [hstep.marked_of_ne hline, List.count_cons_of_ne (Ne.symm hline)]

theorem eq_fresh_of_mem_toggleAll (h : LinesApart (s.list path)) (hlines : ∀ l ∈ lines, l ≠ .nan)
    (hb : b ∈ (s.toggleAll path lines).list path) (hon : b.line ∈ lines) : b = .fresh b.line := by
  induction lines generalizing s with
  | nil => cases hon
  | cons first lines ih =>
    obtain ⟨hfirst, hrest⟩ := List.forall_mem_cons.mp hlines
    have hstep := toggle_toggle s path first
    by_cases hlater : b.line ∈ lines
    · exact ih (hstep.linesApart h) hrest hb hlater
    · -- the line is not toggled again, so the breakpoint has been there since the first toggle
      have hsame : b.line = first := (List.mem_cons.mp hon).resolve_right hlater
      have hmem : b ∈ ((s.toggleAll path (first :: lines)).list path).filter
          fun c => c.line ∉ lines := List.mem_filter.mpr ⟨hb, decide_eq_true hlater⟩
      rw [toggleAll_cons, filter_toggleAll fun c hc => decide_eq_false (not_not.mpr hc)] at hmem
      rw [hsame]
      exact (hstep.eq_fresh h hfirst (List.mem_filter.mp hmem).1 hsame).1

theorem get?_toggleAll_of_ne (h : path' ≠ path) :
    (s.toggleAll path lines).get? path' = s.get? path' := by
  induction lines generalizing s with
  | nil => rfl
  | cons line lines ih =>
    rw [toggleAll_cons, ih]
    exact s.get?_toggle_of_ne line h

/-- What toggles on some lines of a file have made of a store. -/
structure Toggled (path : Text) (lines : List Number) (s s' : BreakpointStore) : Prop where
  /-- The lines of the file are different from each other. -/
  apart : LinesApart (s'.list path)
  /-- A line has a breakpoint if it had one or was toggled an odd number of times, but not both. -/
  parity : ∀ line,
    Marked line (s'.list path) ↔ Xor (Marked line (s.list path)) (Odd (lines.count line))
  /-- The breakpoints on lines that were not toggled are the same, in the same order. -/
  kept : (s'.list path).filter (fun b => b.line ∉ lines) =
    (s.list path).filter fun b => b.line ∉ lines
  /-- A breakpoint on a line that was toggled is as a toggle adds it. -/
  fresh : ∀ b ∈ s'.list path, b.line ∈ lines → b = { line := b.line, verified := false }
  /-- Other files have what they had. -/
  others : ∀ path', path' ≠ path → s'.get? path' = s.get? path'

/-- **Toggles count by their parity.**  Where the breakpoints of a file are on different lines, any
number of toggles has the effect that `Toggled` describes.  Each toggle tells whether the line had
no breakpoint just before it, and on a line without one, two toggles restore the list. -/
theorem toggleAll_parity (s : BreakpointStore) (path : Text) :
    (LinesApart (s.list path) → ∀ lines, (∀ l ∈ lines, l ≠ .nan) →
      Toggled path lines s (s.toggleAll path lines)) ∧
    (∀ before line, ((s.toggleAll path before).toggle path line).1 = true ↔
      ¬ Marked line ((s.toggleAll path before).list path)) ∧
    ∀ line, line ≠ .nan → ¬ Marked line (s.list path) →
      ((s.toggle path line).2.toggle path line).2.list path = s.list path := by
  refine ⟨?_, ?_, ?_⟩
  · intro h lines hlines
    exact {
      apart := linesApart_toggleAll h
      parity := marked_toggleAll h hlines
      kept := filter_toggleAll (by simp)
      fresh := fun b hb hon => eq_fresh_of_mem_toggleAll h hlines hb hon
      others := fun path' hne => get?_toggleAll_of_ne hne }
  · intro before line
    exact (toggle_toggle _ path line).added_iff
  · intro line hline h
    exact list_toggle_toggle hline h

/-- A file with breakpoints on lines 3 and 7, the first with a condition. -/
def twoConfirmed : BreakpointStore :=
  empty.set (Text.ofString "/tmp/example.ts")
    [{ line := 3, verified := true, id := some 1, condition := some (Text.ofString "n > 1") },
      { line := 7, verified := true, id := some 2 }]

/-- Of the lines toggled, line 3 loses its condition in two toggles, line 5 ends up with a
breakpoint after three, and line 9 without one after two; line 7 keeps what it has. -/
theorem toggleAll_parity_interleaved :
    let path := Text.ofString "/tmp/example.ts"
    let lines : List Number := [3, 5, 9, 3, 5, 9, 5]
    LinesApart (twoConfirmed.list path) ∧ (∀ l ∈ lines, l ≠ .nan) ∧
      Toggled path lines twoConfirmed (twoConfirmed.toggleAll path lines) ∧
      (twoConfirmed.toggleAll path lines).list path =
        [{ line := 7, verified := true, id := some 2 }, { line := 3, verified := false },
          { line := 5, verified := false }] ∧
      ¬ Marked 9 (twoConfirmed.list path) ∧
      ((twoConfirmed.toggle path 9).2.toggle path 9).2.list path = twoConfirmed.list path := by
  intro path lines
  have hapart : LinesApart (twoConfirmed.list path) := by
    unfold LinesApart
    decide +kernel
  have hlines : ∀ l ∈ lines, l ≠ .nan := by decide +kernel
  have hunmarked : ¬ Marked 9 (twoConfirmed.list path) := by
    unfold Marked
    decide +kernel
  obtain ⟨htoggled, -, htwice⟩ := toggleAll_parity twoConfirmed path
  exact ⟨hapart, hlines, htoggled hapart lines hlines, by decide +kernel, hunmarked,
    htwice 9 (by decide) hunmarked⟩

end BreakpointStore

end EditorGutter
