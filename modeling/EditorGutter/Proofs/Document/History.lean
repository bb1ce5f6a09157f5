import EditorGutter.Document
import EditorGutter.Proofs.Selection.Clamping
import Mathlib.Data.List.Induction

/-!
The history of a document.

`run_history` tells the state of a document from the calls that were made on it: the selection of
a view is the one last set for it, held inside the shortest of the texts there have been since
(`leastLength`), its ends are offsets in the present text, the views stand in the order in which
they first set a selection, and the version counts the texts put in.

Each part has a lemma for one step and one for a run.  The first two parts are one induction: a
selection `s.clamp n` becomes `s.clamp (min n m)` when a text of length `m` comes, and the cursor
of a view that never set a selection is held at the start by any text.
-/
namespace EditorGutter

namespace Document

/-! ### Steps -/

/-- A call that changes a document. -/
inductive Step where
  | setText (text : Text)
  | setSelection (view : Number) (s : Selection)
  | setDiagnostics (ds : List Diagnostic)
  | publish (ds : List PublishedDiagnostic)

namespace Step

/-- The length of the text that a call puts in, its line breaks normalized. -/
def newLength? : Step → Option Nat
  | setText text => some (Buffer.ofText text).length
  | _ => none

/-- The view for which a call sets a selection. -/
def view? : Step → Option Number
  | setSelection view _ => some view
  | _ => none

/-- Whether a call puts a text in. -/
def isSetText : Step → Bool
  | setText _ => true
  | _ => false

/-- A selection that a call sets has ends that are whole values. -/
def Whole : Step → Prop
  | setSelection _ s => s.Whole
  | _ => True

end Step

/-- One call on a document. -/
def step (doc : Document) : Step → Document
  | .setText text => doc.setText text
  | .setSelection view s => doc.setSelection view s
  | .setDiagnostics ds => doc.setDiagnostics ds
  | .publish ds => doc.publish ds

/-- The document after a sequence of calls. -/
def run (doc : Document) (steps : List Step) : Document := steps.foldl step doc

/-- The smallest of a length and the lengths of the texts that calls put in after it. -/
def leastLength (n : Nat) (steps : List Step) : Nat :=
  (steps.filterMap Step.newLength?).foldl min n

variable {doc : Document} {st : Step} {steps : List Step} {v : Number} {s : Selection} {n : Nat}

theorem run_append (doc : Document) (before after : List Step) :
    doc.run (before ++ after) = (doc.run before).run after :=
  List.foldl_append

theorem leastLength_cons (n : Nat) (st : Step) (steps : List Step) :
    leastLength n (st :: steps) = leastLength (leastLength n [st]) steps := by
  cases st <;> rfl

/-! ### The selection of a view -/

theorem selection_setSelection (doc : Document) (w v : Number) (s : Selection) :
    (doc.setSelection w s).selection v =
      if w = v then s.clamp doc.buffer.length else doc.selection v := by
  unfold selection setSelection
  dsimp only
  rw [OrderedMap.get?_insert]
  split
  · rfl
  · rfl

/-- Setting the selection of one view leaves those of the others alone. -/
theorem selection_setSelection_of_ne {w v : Number} (h : w ≠ v) (s : Selection) :
    (doc.setSelection w s).selection v = doc.selection v := by
  rw [selection_setSelection, if_neg h]

/-- A new text holds every selection inside it, set or not. -/
theorem selection_setText (doc : Document) (text : Text) (v : Number) :
    (doc.setText text).selection v = (doc.selection v).clamp (Buffer.ofText text).length := by
  unfold selection
  rw [selections_setText, OrderedMap.get?_mapValues]
  cases doc.selections.get? v with
  | none => exact (Selection.clamp_point_zero _).symm
  | some s => rfl

/-- A call that does not set the selection of a view can only hold it inside a new text. -/
theorem selection_step (hst : st.view? ≠ some v) (h : doc.selection v = s.clamp n) :
    (doc.step st).selection v = s.clamp (leastLength n [st]) := by
  cases st with
  | setText text =>
    calc (doc.setText text).selection v
        = (s.clamp n).clamp (Buffer.ofText text).length := by rw [selection_setText, h]
      _ = s.clamp ((min n (Buffer.ofText text).length : Nat) : Number) := s.clamp_clamp _ _
  | setSelection w t =>
    have hw : w ≠ v := fun e => hst (congrArg some e)
    exact (selection_setSelection_of_ne hw t).trans h
  | setDiagnostics ds => exact h
  | publish ds => exact h

/-- While it is not set again, a selection is held inside the shortest text there has been. -/
theorem selection_run (hsteps : ∀ st ∈ steps, st.view? ≠ some v)
    (h : doc.selection v = s.clamp n) :
    (doc.run steps).selection v = s.clamp (leastLength n steps) := by
  induction steps generalizing doc n with
  | nil => exact h
  | cons st steps ih =>
    obtain ⟨hst, hrest⟩ := List.forall_mem_cons.mp hsteps
    rw [leastLength_cons]
    exact ih hrest (selection_step hst h)

/-- A view that never set a selection has its cursor at the start. -/
theorem selection_run_of_unset (path : Option Text) (text : Text)
    (hsteps : ∀ st ∈ steps, st.view? ≠ some v) :
    ((create path text).run steps).selection v = .point 0 := by
  have hstart : (create path text).selection v = (Selection.point 0).clamp (0 : Nat) :=
    (Selection.clamp_point_zero 0).symm
  rw [selection_run hsteps hstart, Selection.clamp_point_zero]

/-- The selection of a view is the one last set for it, held inside the text it was set in and all
that came after. -/
theorem selection_run_of_last (doc : Document) (before after : List Step) (s : Selection)
    (hafter : ∀ st ∈ after, st.view? ≠ some v) :
    (doc.run (before ++ .setSelection v s :: after)).selection v =
      s.clamp (leastLength (doc.run before).buffer.length after) := by
  have hset : ((doc.run before).setSelection v s).selection v =
      s.clamp (doc.run before).buffer.length := by
    rw [selection_setSelection, if_pos rfl]
  rw [run_append]
  show (((doc.run before).setSelection v s).run after).selection v = _
  exact selection_run hafter hset

/-! ### Selections in the text -/

/-- The ends of every selection are offsets in the text. -/
def Held (doc : Document) : Prop := ∀ v, (doc.selection v).Within doc.buffer.length

theorem held_create (path : Option Text) (text : Text) : (create path text).Held :=
  fun _ => Selection.within_point_zero _

theorem Held.step (hdoc : doc.Held) (hst : st.Whole) : (doc.step st).Held := by
  intro v
  cases st with
  | setText text =>
    show ((doc.setText text).selection v).Within (Buffer.ofText text).length
    rw [selection_setText]
    exact (hdoc v).whole.within_clamp _
  | setSelection w s =>
    show ((doc.setSelection w s).selection v).Within doc.buffer.length
    rw [selection_setSelection]
    split
    · exact Selection.Whole.within_clamp hst _
    · exact hdoc v
  | setDiagnostics ds => exact hdoc v
  | publish ds => exact hdoc v

theorem Held.run (hdoc : doc.Held) (hsteps : ∀ st ∈ steps, st.Whole) : (doc.run steps).Held := by
  induction steps generalizing doc with
  | nil => exact hdoc
  | cons st steps ih =>
    obtain ⟨hst, hrest⟩ := List.forall_mem_cons.mp hsteps
    exact ih (hdoc.step hst) hrest

/-! ### The order of the views -/

/-- A call that sets no selection leaves the views as they are. -/
theorem viewIds_step_of_none (h : st.view? = none) : (doc.step st).viewIds = doc.viewIds := by
  cases st with
  | setText text => exact doc.viewIds_setText text
  | setSelection w s => cases h
  | setDiagnostics ds => rfl
  | publish ds => rfl

/-- A view that sets a selection goes to the end unless it has one. -/
theorem viewIds_step_of_some (h : st.view? = some v) :
    (doc.step st).viewIds = if v ∈ doc.viewIds then doc.viewIds else doc.viewIds ++ [v] := by
  cases st with
  | setSelection w s =>
    obtain rfl := Option.some.inj h
    exact doc.viewIds_setSelection w s
  | setText text => cases h
  | setDiagnostics ds => cases h
  | publish ds => cases h

/-- The views stand in the order in which they first set a selection. -/
theorem viewIds_run (path : Option Text) (text : Text) (steps : List Step) :
    ((create path text).run steps).viewIds = (steps.filterMap Step.view?).eraseDups := by
  induction steps using List.reverseRecOn with
  | nil => rfl
  | append_singleton steps st ih =>
    rw [run_append, List.filterMap_append]
    show (((create path text).run steps).step st).viewIds = _
    rcases hst : st.view? with - | v
    · rw [viewIds_step_of_none hst, ih, List.filterMap_cons_none hst, List.filterMap_nil,
        List.append_nil]
    · rw [viewIds_step_of_some hst, ih, List.filterMap_cons_some hst, List.filterMap_nil,
        OrderedMap.eraseDups_concat]

/-! ### The version -/

theorem version_step (doc : Document) (st : Step) :
    (doc.step st).version = doc.version + if st.isSetText then 1 else 0 := by
  cases st <;> rfl

/-- The version counts the texts put in. -/
theorem version_run (doc : Document) (steps : List Step) :
    (doc.run steps).version = doc.version + steps.countP Step.isSetText := by
  induction steps generalizing doc with
  | nil => rfl
  | cons st steps ih =>
    show ((doc.step st).run steps).version = _
    rw [ih, version_step, List.countP_cons]
    omega

/-! ### Histories -/

/-- **A document is told by its history.**  After any calls the selection of a view is the cursor
at the start if the view never set one, and otherwise the selection last set for it, held inside
the shortest text there has been from then on; its ends lie in the text, setting the selection of
one view leaves those of the others alone, the views stand in the order in which they first set
one, and the version is the number of texts put in. -/
theorem run_history (path : Option Text) (text : Text) (steps : List Step)
    (hwhole : ∀ st ∈ steps, st.Whole) :
    let doc := (create path text).run steps
    (∀ v, (∀ st ∈ steps, st.view? ≠ some v) → doc.selection v = .point 0) ∧
    (∀ v s before after, steps = before ++ .setSelection v s :: after →
      (∀ st ∈ after, st.view? ≠ some v) →
      doc.selection v =
          s.clamp (leastLength ((create path text).run before).buffer.length after) ∧
        (doc.selection v).ranges.length = s.ranges.length ∧
        (doc.selection v).primaryIndex = s.primaryIndex) ∧
    (∀ v, (doc.selection v).Within doc.buffer.length) ∧
    (∀ v w s, w ≠ v → (doc.setSelection w s).selection v = doc.selection v) ∧
    doc.viewIds = (steps.filterMap Step.view?).eraseDups ∧
    doc.version = steps.countP Step.isSetText := by
  refine ⟨fun v hv => selection_run_of_unset path text hv, ?_, (held_create path text).run hwhole,
    fun v w s h => selection_setSelection_of_ne h s, viewIds_run path text steps, ?_⟩
  · rintro v s before after rfl hafter
    have hlast := selection_run_of_last (create path text) before after s hafter
    refine ⟨hlast, ?_, ?_⟩
    · rw [hlast]
      exact List.length_map _
    · rw [hlast]
      rfl
  · exact (version_run _ steps).trans (Nat.zero_add _)

/-- A text of six units is replaced by one of four, and that by one of eight. -/
def shrunkSteps : List Step :=
  [.setSelection 1 (.single 2 6), .setText (Text.ofString "ab\r\nc"),
    .setSelection 2 (.single (-1) 9), .setText (Text.ofString "abcdefgh"), .publish []]

/-- The shorter text is remembered: both selections end at its length when a longer one has come. -/
theorem run_history_shrunk :
    let doc := (create none (Text.ofString "abcdef")).run shrunkSteps
    (∀ st ∈ shrunkSteps, st.Whole) ∧ doc.selection 1 = .single 2 4 ∧
      doc.selection 2 = .single 0 4 ∧ doc.selection 3 = .point 0 ∧ doc.buffer.length = 8 ∧
      doc.viewIds = [1, 2] ∧ doc.version = 2 := by
  have hwhole : ∀ st ∈ shrunkSteps, st.Whole := by
    intro st hst
    simp only [shrunkSteps, List.mem_cons, List.not_mem_nil, or_false] at hst
    rcases hst with rfl | rfl | rfl | rfl | rfl
    · intro r hr
      obtain rfl := List.mem_singleton.mp hr
      exact ⟨⟨2, rfl⟩, 6, rfl⟩
    · trivial
    · intro r hr
      obtain rfl := List.mem_singleton.mp hr
      exact ⟨⟨-1, by decide⟩, 9, rfl⟩
    · trivial
    · trivial
  obtain ⟨hunset, hlast, -, -, hviews, hversion⟩ :=
    run_history none (Text.ofString "abcdef") shrunkSteps hwhole
  refine ⟨hwhole, ?_, ?_, hunset 3 (by decide), by decide, ?_, ?_⟩
  · refine (hlast 1 _ [] _ rfl (by decide)).1.trans ?_
    decide
  · refine (hlast 2 _ (shrunkSteps.take 2) (shrunkSteps.drop 3) rfl (by decide)).1.trans ?_
    decide
  · rw [hviews]
    decide
  · rw [hversion]
    decide

end Document

end EditorGutter
