import EditorGutter.Proofs.Document.History
import EditorGutter.Proofs.Gutter.Failures

/-!
Which selections have a primary range.

An index that is neither below zero nor past the last range is accepted, and need not be a count:
NaN is neither, nor is a fraction between two counts.  Such a selection has no primary range
(`Selection.hasPrimary_iff`), and holding it inside a text gives it none.  So the selection of a
view has a primary range exactly if the one that was last set for it has, and line numbers can
otherwise not be bound, whatever the theme: the main result is `Document.run_hasPrimary_iff`.
-/
namespace EditorGutter

/-! ### Selections -/

namespace Selection

variable {s : Selection}

/-- The primary index of a selection names one of its ranges. -/
def HasPrimary (s : Selection) : Prop := ∃ r ∈ s.ranges, s.primary? = some r

theorem mem_of_primary?_eq_some {r : Range} (h : s.primary? = some r) : r ∈ s.ranges := by
  unfold primary? at h
  split at h
  · exact List.mem_of_getElem? h
  · cases h

/-- Of the indices that are accepted, it is the counts that name a range. -/
theorem hasPrimary_iff : s.HasPrimary ↔ ∃ i : Nat, s.primaryIndex = (i : Number) := by
  constructor
  · rintro ⟨r, -, hr⟩
    unfold primary? at hr
    split at hr
    · next i hi => exact ⟨i, Number.toNat?_eq_some_iff.mp hi⟩
    · cases hr
  · rintro ⟨i, hi⟩
    obtain ⟨r, hr⟩ := exists_primary? hi
    exact ⟨r, mem_of_primary?_eq_some hr, hr⟩

theorem hasPrimary_clamp (length : Number) : (s.clamp length).HasPrimary ↔ s.HasPrimary := by
  rw [hasPrimary_iff, hasPrimary_iff]
  rfl

theorem hasPrimary_point (offset : Number) : (point offset).HasPrimary :=
  hasPrimary_iff.mpr ⟨0, rfl⟩

/-- Ranges and an index are refused out of bounds, and otherwise they are those of the selection. -/
theorem ofRanges?_cases (ranges : List Range) (x : Number) :
    ((ranges = [] ∨ x < 0 ∨ (ranges.length : Number) ≤ x) ∧
      ∃ fault, ofRanges? ranges x = .error (.range fault)) ∨
    ∃ s, ofRanges? ranges x = .ok s ∧ s.ranges = ranges ∧ s.primaryIndex = x := by
  unfold ofRanges?
  split_ifs with hnil hneg hpast
  · exact .inl ⟨.inl hnil, _, rfl⟩
  · exact .inl ⟨.inr (.inl hneg), _, rfl⟩
  · exact .inl ⟨.inr (.inr hpast), _, rfl⟩
  · exact .inr ⟨_, rfl, rfl, rfl⟩

theorem HasPrimary.exists_line (h : s.HasPrimary) (b : Buffer) :
    ∃ l < b.lineCount, s.primaryCursorLine b = .ok l := by
  obtain ⟨r, -, hr⟩ := h
  refine ⟨b.lineAt (r.cursor b.text), b.lineAt_lt_lineCount _, ?_⟩
  rw [primaryCursorLine, hr]

theorem primaryCursorLine_eq_error (h : ¬ s.HasPrimary) (b : Buffer) :
    s.primaryCursorLine b = .error .noPrimaryRange := by
  unfold primaryCursorLine
  split
  · next r hr => exact absurd ⟨r, mem_of_primary?_eq_some hr, hr⟩ h
  · rfl

theorem hasPrimary_iff_exists_line (b : Buffer) :
    s.HasPrimary ↔ ∃ l < b.lineCount, s.primaryCursorLine b = .ok l := by
  refine ⟨fun h => h.exists_line b, ?_⟩
  rintro ⟨l, -, hl⟩
  by_contra h
  rw [primaryCursorLine_eq_error h] at hl
  cases hl

end Selection

/-! ### Line numbers -/

/-- Binding line numbers fails on the missing style, or else on the missing primary range. -/
theorem GutterKind.bind_lineNumbers_eq_error_iff {scene : Scene} {width : Nat} {fault : Fault} :
    GutterKind.lineNumbers.bind scene width = .error fault ↔
      (scene.theme.style? Scope.lineNumber.text = none ∧
        fault = .missingStyle Scope.lineNumber.text (some scene.theme.name)) ∨
      ((scene.theme.style? Scope.lineNumber.text).isSome ∧
        ¬ (scene.doc.selection scene.view.id).HasPrimary ∧ fault = .noPrimaryRange) := by
  show bindLineNumbers scene width = _ ↔ _
  rw [bindLineNumbers_eq, Theme.style]
  -- the style is asked for before the primary range
  rcases scene.theme.style? Scope.lineNumber.text with - | plain
  · simp [Except.bind, eq_comm]
  · by_cases hprimary : (scene.doc.selection scene.view.id).HasPrimary
    · obtain ⟨l, -, hl⟩ := hprimary.exists_line scene.doc.buffer
      simp [Except.bind, hl, hprimary]
    · simp [Except.bind, Selection.primaryCursorLine_eq_error hprimary, hprimary, eq_comm]

/-! ### Documents -/

namespace Document

/-- The selection that a call sets for a view. -/
def Step.selectionFor? (v : Number) : Step → Option Selection
  | setSelection w s => if w = v then some s else none
  | _ => none

/-- The selection that was last set for a view, as it was set. -/
def lastSelection? (v : Number) (steps : List Step) : Option Selection :=
  steps.reverse.findSome? (Step.selectionFor? v)

variable {doc : Document} {steps : List Step} {v : Number}

theorem lastSelection?_concat (v : Number) (steps : List Step) (st : Step) :
    lastSelection? v (steps ++ [st]) = (st.selectionFor? v).or (lastSelection? v steps) := by
  unfold lastSelection?
  rw [List.reverse_concat, List.findSome?_cons]
  rcases st.selectionFor? v with - | s
  · rfl
  · rfl

/-- A call keeps it so that the selection last set for a view tells whether there is a primary
range. -/
theorem hasPrimary_step (st : Step)
    (h : (doc.selection v).HasPrimary ↔ ∀ s, lastSelection? v steps = some s → s.HasPrimary) :
    ((doc.step st).selection v).HasPrimary ↔
      ∀ s, lastSelection? v (steps ++ [st]) = some s → s.HasPrimary := by
  rw [lastSelection?_concat]
  cases st with
  | setText text =>
    -- the ranges are held inside the text, and the index stays
    show ((doc.setText text).selection v).HasPrimary ↔ _
    rw [selection_setText, Selection.hasPrimary_clamp]
    exact h
  | setSelection w s =>
    show ((doc.setSelection w s).selection v).HasPrimary ↔ _
    rw [selection_setSelection, Step.selectionFor?]
    split
    · rw [Selection.hasPrimary_clamp, Option.some_or]
      simp only [Option.some.injEq, forall_eq']
    · exact h
  | setDiagnostics ds => exact h
  | publish ds => exact h

theorem hasPrimary_run (path : Option Text) (text : Text) (steps : List Step) (v : Number) :
    (((create path text).run steps).selection v).HasPrimary ↔
      ∀ s, lastSelection? v steps = some s → s.HasPrimary := by
  induction steps using List.reverseRecOn with
  | nil => exact iff_of_true (Selection.hasPrimary_point 0) nofun
  | append_singleton steps st ih =>
    rw [run_append]
    exact hasPrimary_step st ih

/-- **A selection that is accepted has a primary range exactly if its primary index is a count.**
Holding it inside a text changes nothing about that, and so after any calls a view has a primary
range, whose cursor is on a line of the text, exactly if the selection that was last set for it, if
any was, has one.  Line numbers fail to be bound if the theme has no style for them, and otherwise
exactly if there is no primary range. -/
theorem run_hasPrimary_iff (path : Option Text) (text : Text) (steps : List Step) :
    -- what is accepted
    (∀ ranges x,
      ((ranges = [] ∨ x < 0 ∨ (ranges.length : Number) ≤ x) ∧
        ∃ fault, Selection.ofRanges? ranges x = .error (.range fault)) ∨
      ∃ s, Selection.ofRanges? ranges x = .ok s ∧ s.ranges = ranges ∧
        (s.HasPrimary ↔ ∃ i : Nat, x = (i : Number)) ∧
        ∀ length, (s.clamp length).HasPrimary ↔ s.HasPrimary) ∧
    -- what becomes of it
    let doc := (create path text).run steps
    (∀ v,
      ((doc.selection v).HasPrimary ↔
        ∀ s, lastSelection? v steps = some s → ∃ i : Nat, s.primaryIndex = (i : Number)) ∧
      ((doc.selection v).HasPrimary ↔
        ∃ l < doc.buffer.lineCount, (doc.selection v).primaryCursorLine doc.buffer = .ok l)) ∧
    -- what asks for it
    ∀ scene width fault, scene.doc = doc →
      (GutterKind.lineNumbers.bind scene width = .error fault ↔
        (scene.theme.style? Scope.lineNumber.text = none ∧
          fault = .missingStyle Scope.lineNumber.text (some scene.theme.name)) ∨
        ((scene.theme.style? Scope.lineNumber.text).isSome ∧
          ¬ (doc.selection scene.view.id).HasPrimary ∧ fault = .noPrimaryRange)) := by
  refine ⟨?_, ?_, ?_⟩
  · intro ranges x
    refine (Selection.ofRanges?_cases ranges x).imp_right ?_
    rintro ⟨s, hs, hranges, rfl⟩
    exact ⟨s, hs, hranges, Selection.hasPrimary_iff, fun length => Selection.hasPrimary_clamp _⟩
  · intro v
    refine ⟨?_, Selection.hasPrimary_iff_exists_line _⟩
    simp only [← Selection.hasPrimary_iff]
    exact hasPrimary_run path text steps v
  · intro scene width fault hdoc
    rw [← hdoc]
    exact GutterKind.bind_lineNumbers_eq_error_iff

/-- One range, and an index that is neither below zero nor past it. -/
def halfway : Selection :=
  ⟨[⟨0, 0⟩], .finite (1 / 2), by decide, by decide +kernel, by decide +kernel⟩

/-- The selection without a primary range is replaced by one that has it, which a shorter text then
holds. -/
theorem run_hasPrimary_iff_replaced :
    let doc := (create none (Text.ofString "ab\ncd")).run
      [.setSelection 1 halfway, .setSelection 1 (.single 3 5), .setText (Text.ofString "a")]
    (doc.selection 1).HasPrimary ∧
      ∃ l < doc.buffer.lineCount, (doc.selection 1).primaryCursorLine doc.buffer = .ok l := by
  obtain ⟨-, hdoc, -⟩ := run_hasPrimary_iff none (Text.ofString "ab\ncd")
    [.setSelection 1 halfway, .setSelection 1 (.single 3 5), .setText (Text.ofString "a")]
  obtain ⟨hlast, hline⟩ := hdoc 1
  have hprimary := hlast.mpr fun s hs => by
    obtain rfl := Option.some.inj (hs : some (Selection.single 3 5) = some s)
    exact ⟨0, rfl⟩
  exact ⟨hprimary, hline.mp hprimary⟩

/-- The index between two counts is accepted and names no range, so line numbers cannot be bound
although the theme has a style for them. -/
theorem not_hasPrimary_halfway :
    Selection.ofRanges? [⟨0, 0⟩] (.finite (1 / 2)) = .ok halfway ∧ ¬ halfway.HasPrimary ∧
      let doc := (create none (Text.ofString "abc")).run [.setSelection 1 halfway]
      ¬ (doc.selection 1).HasPrimary ∧
        GutterKind.lineNumbers.bind { Sample.scene .relative with doc := doc } 4 =
          .error .noPrimaryRange := by
  have hnot : ¬ halfway.HasPrimary := by
    rintro ⟨r, -, hr⟩
    cases (show halfway.primary? = none by decide +kernel).symm.trans hr
  have hdoc : ¬ (((create none (Text.ofString "abc")).run [.setSelection 1 halfway]).selection
      1).HasPrimary := by
    rw [hasPrimary_run]
    exact fun h => hnot (h halfway rfl)
  refine ⟨by decide +kernel, hnot, hdoc, ?_⟩
  exact GutterKind.bind_lineNumbers_eq_error_iff.mpr (.inr ⟨by decide +kernel, hdoc, rfl⟩)

end Document

end EditorGutter
