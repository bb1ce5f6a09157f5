import EditorGutter.Proofs.Diagnostic.Placement
import EditorGutter.Proofs.Document.History
import EditorGutter.Proofs.Gutter.Marks

/-!
The diagnostics of a document that a server publishes to.

Offsets are taken in the text that is there when diagnostics are published, and any later text
drops them.  So after any calls the diagnostics are those published last since the last text
(`Document.lastPublished`), placed in the text that is there now (`Document.diagnostics_run`).
Where they were placed and on which lines they are marked follows from there: the main result is
`Document.run_published`.
-/
namespace EditorGutter

namespace Document

/-! ### What was published last -/

namespace Step

/-- The diagnostics that a call publishes. -/
def published? : Step → Option (List PublishedDiagnostic)
  | publish ds => some ds
  | _ => none

/-- The diagnostics that a call brings, if any, come from a server, at whole positions. -/
def FromServer : Step → Prop
  | setDiagnostics _ => False
  | publish ds => ∀ d ∈ ds, d.Whole
  | _ => True

end Step

/-- The diagnostics that were published last since the last text was put in; none if none were. -/
def lastPublished (steps : List Step) : List PublishedDiagnostic :=
  ((steps.reverse.takeWhile fun st => !st.isSetText).findSome? Step.published?).getD []

/-- The last call decides, unless it neither publishes nor puts a text in. -/
theorem lastPublished_concat (steps : List Step) (st : Step) :
    lastPublished (steps ++ [st]) =
      if st.isSetText then [] else st.published?.getD (lastPublished steps) := by
  unfold lastPublished
  rw [List.reverse_concat, List.takeWhile_cons]
  cases st <;> rfl

variable {doc : Document} {st : Step} {steps : List Step}

/-- A server that publishes at whole positions has published its last diagnostics at such. -/
theorem whole_of_mem_lastPublished (hsteps : ∀ st ∈ steps, st.FromServer) :
    ∀ d ∈ lastPublished steps, d.Whole := by
  -- on the calls from the first, since the last one decides
  induction steps using List.reverseRecOn with
  | nil => exact List.forall_mem_nil _
  | append_singleton steps st ih =>
    obtain ⟨hrest, hst⟩ := List.forall_mem_append.mp hsteps
    have hst := hst st List.mem_cons_self
    rw [lastPublished_concat]
    cases st with
    | setText text => exact List.forall_mem_nil _
    | setSelection w s => exact ih hrest
    | setDiagnostics ds => exact hst.elim
    | publish ds => exact hst

/-! ### Diagnostics in the text -/

/-- A call keeps the diagnostics those that were published last, placed in the present text. -/
theorem diagnostics_step (hst : st.FromServer)
    (h : doc.diagnostics = (lastPublished steps).map fun d => d.place doc.buffer) :
    (doc.step st).diagnostics =
      (lastPublished (steps ++ [st])).map fun d => d.place (doc.step st).buffer := by
  rw [lastPublished_concat]
  cases st with
  -- a new text comes without diagnostics, so none is left in the wrong text
  | setText text => rfl
  | setSelection w s => exact h
  | setDiagnostics ds => exact hst.elim
  | publish ds => rfl

/-- The diagnostics are those that were published last, in the order of the server, placed in the
present text. -/
theorem diagnostics_run (path : Option Text) (text : Text)
    (hsteps : ∀ st ∈ steps, st.FromServer) :
    ((create path text).run steps).diagnostics =
      (lastPublished steps).map fun d => d.place ((create path text).run steps).buffer := by
  induction steps using List.reverseRecOn with
  | nil => rfl
  | append_singleton steps st ih =>
    obtain ⟨hrest, hst⟩ := List.forall_mem_append.mp hsteps
    rw [run_append]
    exact diagnostics_step (hst st List.mem_cons_self) (ih hrest)

end Document

/-! ### Marked lines -/

/-- A scan of diagnostics marks a line if and only if one of them is on it. -/
theorem Theme.scanDiagnostics_ne_iff (theme : Theme) (ds : List Diagnostic) (line : Number) :
    theme.scanDiagnostics ds line ≠ {} ↔ ∃ d ∈ ds, d.line = line := by
  unfold scanDiagnostics
  split
  · next hfind =>
    refine iff_of_false (fun h => h rfl) ?_
    rintro ⟨d, hd, hline⟩
    exact List.find?_eq_none.mp hfind d hd (decide_eq_true hline)
  · next d hfind =>
    have hline := List.find?_some hfind
    refine iff_of_true ?_ ⟨d, List.mem_of_find?_eq_some hfind, of_decide_eq_true hline⟩
    intro h
    exact List.cons_ne_nil _ _ (congrArg Mark.text h)

/-- The mark of a scan of diagnostics is the dot. -/
theorem Theme.text_of_scanDiagnostics_ne {theme : Theme} {ds : List Diagnostic} {line : Number}
    (h : theme.scanDiagnostics ds line ≠ {}) :
    (theme.scanDiagnostics ds line).text = Text.ofString Glyph.diagnostic := by
  unfold scanDiagnostics at h ⊢
  split at h
  · exact absurd rfl h
  · rfl

namespace Document

/-- **What a server publishes stays inside the document.**  After any calls that bring no other
diagnostics, those of the document are the ones published last since the last text, one for each
in the order of the server; they lie in the present text; a start on a line that the text has lies
on that line; and the gutter of diagnostics, bound to the document with its styles, marks a line of
the text if and only if one of those published starts there. -/
theorem run_published (path : Option Text) (text : Text) (steps : List Step)
    (hsteps : ∀ st ∈ steps, st.FromServer) :
    let doc := (create path text).run steps
    doc.diagnostics = (lastPublished steps).map (fun d => d.place doc.buffer) ∧
    (∀ d ∈ doc.diagnostics, ∃ s e : Nat, d.start = (s : Number) ∧ d.stop = (e : Number) ∧
      s ≤ doc.buffer.length ∧ e ≤ doc.buffer.length) ∧
    (∀ d ∈ lastPublished steps, ∀ l < doc.buffer.lineCount, d.start.line = (l : Number) →
      (d.place doc.buffer).line = (l : Number) ∧
        doc.buffer.lineAt (d.place doc.buffer).start = l) ∧
    ∀ scene width, scene.doc = doc → scene.theme.Has GutterKind.diagnostics.requiredScopes →
      ∃ draw, GutterKind.diagnostics.bind scene width = .ok draw ∧
        ∀ l < doc.buffer.lineCount, ∀ selected,
          (draw l selected ≠ {} ↔ ∃ d ∈ lastPublished steps, d.start.line = (l : Number)) ∧
          (draw l selected ≠ {} →
            (draw l selected).text = Text.ofString Glyph.diagnostic) := by
  intro doc
  have hlast : doc.diagnostics = (lastPublished steps).map fun d => d.place doc.buffer :=
    diagnostics_run path text hsteps
  have hwhole := whole_of_mem_lastPublished hsteps
  refine ⟨hlast, ?_, ?_, ?_⟩
  · rw [hlast]
    intro d hd
    obtain ⟨p, hp, rfl⟩ := List.mem_map.mp hd
    exact (hwhole p hp).exists_place _
  · intro d hd l hl hline
    exact ⟨hline, (hwhole d hd).1.lineAt_offset hline hl⟩
  · intro scene width hdoc hscopes
    obtain ⟨draw, hbind, hdraw⟩ := exists_bind_diagnostics scene width hscopes
    refine ⟨draw, hbind, ?_⟩
    intro l _ selected
    rw [hdraw, hdoc]
    refine ⟨?_, Theme.text_of_scanDiagnostics_ne⟩
    rw [Theme.scanDiagnostics_ne_iff, hlast]
    simp only [List.mem_map, exists_exists_and_eq_and]
    rfl

/-- Diagnostics are published to one text and dropped by the next.  Of those published to it one
starts before the first line, one past the end of the empty second line, and one past the last. -/
def republishedSteps : List Step :=
  [.publish [⟨⟨0, 1⟩, ⟨0, 2⟩, none, none, none, []⟩], .setText (Text.ofString "ab\n\ncd"),
    .publish
      [⟨⟨-1, 4⟩, ⟨0, 1⟩, none, none, none, []⟩, ⟨⟨1, 9⟩, ⟨1, 9⟩, none, none, none, []⟩,
        ⟨⟨7, 0⟩, ⟨7, 1⟩, none, none, none, []⟩],
    .setSelection 1 (.single 2 6)]

/-- The sample scene with the document to which diagnostics were published again. -/
def republishedScene : Scene :=
  { Sample.scene .absolute with doc := (create none (Text.ofString "abc")).run republishedSteps }

/-- All three lie in the text, and only the one on the second line is marked. -/
theorem run_published_again :
    let doc := republishedScene.doc
    (∀ st ∈ republishedSteps, st.FromServer) ∧
      republishedScene.theme.Has GutterKind.diagnostics.requiredScopes ∧
      doc.diagnostics.map Diagnostic.start = [2, 3, 4] ∧ doc.buffer.length = 6 ∧
      doc.buffer.lineCount = 3 ∧ ∃ draw,
        GutterKind.diagnostics.bind republishedScene 1 = .ok draw ∧
        draw (0 : Nat) false = {} ∧ draw (1 : Nat) false ≠ {} ∧ draw (2 : Nat) false = {} := by
  intro doc
  have hserver : ∀ st ∈ republishedSteps, st.FromServer := by
    intro st hst
    simp only [republishedSteps, List.mem_cons, List.not_mem_nil, or_false] at hst
    rcases hst with rfl | rfl | rfl | rfl
    · intro d hd
      obtain rfl := List.mem_singleton.mp hd
      exact ⟨Position.whole_natCast 0 1, Position.whole_natCast 0 2⟩
    · trivial
    · intro d hd
      simp only [List.mem_cons, List.not_mem_nil, or_false] at hd
      rcases hd with rfl | rfl | rfl
      · exact ⟨⟨⟨-1, by decide⟩, 4, rfl⟩, Position.whole_natCast 0 1⟩
      · exact ⟨Position.whole_natCast 1 9, Position.whole_natCast 1 9⟩
      · exact ⟨Position.whole_natCast 7 0, Position.whole_natCast 7 1⟩
    · trivial
  have hscopes : republishedScene.theme.Has GutterKind.diagnostics.requiredScopes := by
    unfold Theme.Has
    decide +kernel
  obtain ⟨hlast, -, -, hmarks⟩ :=
    run_published none (Text.ofString "abc") republishedSteps hserver
  obtain ⟨draw, hbind, hdraw⟩ := hmarks republishedScene 1 rfl hscopes
  refine ⟨hserver, hscopes, ?_, by decide +kernel, by decide +kernel, draw, hbind, ?_, ?_, ?_⟩
  · refine (congrArg (List.map Diagnostic.start) hlast).trans ?_
    decide +kernel
  · exact not_not.mp ((hdraw 0 (by decide +kernel) false).1.not.mpr (by decide +kernel))
  · exact (hdraw 1 (by decide +kernel) false).1.mpr (by decide +kernel)
  · exact not_not.mp ((hdraw 2 (by decide +kernel) false).1.not.mpr (by decide +kernel))

end Document

end EditorGutter
