import EditorGutter.Text.GraphemeClass

/-!
Splitting a text into extended grapheme clusters.

A cluster is what a reader takes for one character, and is never split when text is cut to a
width.  Whether a code point joins the cluster before it depends on that cluster only through a
small `ClusterState`; the rules in `ClusterState.joins` are those of Unicode Standard Annex 29 for
extended clusters, conjuncts included.  The clusters of a text are nonempty pieces that add up to
the text (`flatten_graphemes`, `graphemes_ne_nil`).
-/
namespace EditorGutter

/-! ### The rules -/

/-- How far the end of a cluster has come toward a conjunct. -/
inductive ConjunctState where
  | none
  | consonant
  | linked
  deriving DecidableEq, Repr

/-- How far the end of a cluster has come toward a sequence of joined pictographs. -/
inductive PictographState where
  | none
  | begun
  | joined
  deriving DecidableEq, Repr

/-- What the code points of a cluster so far say about the next one. -/
structure ClusterState where
  last : GraphemeClass
  conjunct : ConjunctState
  pictograph : PictographState
  oddRegionals : Bool
  deriving DecidableEq, Repr

namespace ClusterState

/-- The state of an empty cluster. -/
def empty : ClusterState := ⟨.control, .none, .none, false⟩

/-- The state after one more code point. -/
def push (s : ClusterState) (c : CodePoint) : ClusterState where
  last := c.graphemeClass
  conjunct :=
    match c.conjunctClass, s.conjunct with
    | .consonant, _ => .consonant
    | .linker, .none => .none
    | .linker, _ => .linked
    | .extend, before => before
    | .none, _ => .none
  pictograph :=
    match c.graphemeClass, s.pictograph with
    | .pictographic, _ => .begun
    | .extend, .begun => .begun
    | .zwj, .begun => .joined
    | _, _ => .none
  oddRegionals := c.graphemeClass = .regional && !s.oddRegionals

/-- Whether the classes of two neighbours alone keep them together. -/
def pairJoins : GraphemeClass → GraphemeClass → Bool
  | .cr, .lf => true
  | .cr, _ | .lf, _ | .control, _ => false
  | _, .cr | _, .lf | _, .control => false
  | _, .extend | _, .zwj | _, .spacingMark => true
  | .prepend, _ => true
  | .hangulL, .hangulL | .hangulL, .hangulV | .hangulL, .hangulLV | .hangulL, .hangulLVT => true
  | .hangulLV, .hangulV | .hangulLV, .hangulT | .hangulV, .hangulV | .hangulV, .hangulT => true
  | .hangulLVT, .hangulT | .hangulT, .hangulT => true
  | _, _ => false

/-- Whether a code point joins the cluster before it. -/
def joins (s : ClusterState) (c : CodePoint) : Bool :=
  pairJoins s.last c.graphemeClass
    || (s.conjunct = .linked && c.conjunctClass = .consonant)
    || (s.pictograph = .joined && c.graphemeClass = .pictographic)
    || (s.oddRegionals && c.graphemeClass = .regional)

end ClusterState

/-! ### Clusters -/

namespace Text

/-- The code points that continue a cluster in the given state, and the clusters after it. -/
def splitFrom : ClusterState → List CodePoint → List CodePoint × List (List CodePoint)
  | _, [] => ([], [])
  | s, c :: cs =>
    if s.joins c then
      let (current, later) := splitFrom (s.push c) cs
      (c :: current, later)
    else
      let (current, later) := splitFrom (ClusterState.empty.push c) cs
      ([], (c :: current) :: later)

/-- The clusters of a sequence of code points. -/
def clusters : List CodePoint → List (List CodePoint)
  | [] => []
  | c :: cs =>
    let (current, later) := splitFrom (ClusterState.empty.push c) cs
    (c :: current) :: later

/-- The extended grapheme clusters of a text. -/
def graphemes (t : Text) : List Text := (clusters (codePoints t)).map ofCodePoints

theorem flatten_splitFrom (s : ClusterState) (cs : List CodePoint) :
    (splitFrom s cs).1 ++ (splitFrom s cs).2.flatten = cs := by
  induction cs generalizing s with
  | nil => rfl
  | cons c cs ih =>
    simp only [splitFrom]
    split
    · simp [ih]
    · simp [ih]

theorem flatten_clusters (cs : List CodePoint) : (clusters cs).flatten = cs := by
  cases cs with
  | nil => rfl
  | cons c cs => simp [clusters, flatten_splitFrom]

theorem ofCodePoints_flatten (css : List (List CodePoint)) :
    (css.map ofCodePoints).flatten = ofCodePoints css.flatten := by
  induction css with
  | nil => rfl
  | cons cs css ih => simp_all [ofCodePoints]

/-- The clusters of a text add up to the text. -/
theorem flatten_graphemes (t : Text) : (graphemes t).flatten = t := by
  rw [graphemes, ofCodePoints_flatten, flatten_clusters, ofCodePoints_codePoints]

theorem splitFrom_ne_nil (s : ClusterState) (cs : List CodePoint) :
    [] ∉ (splitFrom s cs).2 := by
  induction cs generalizing s with
  | nil => simp [splitFrom]
  | cons c cs ih =>
    simp only [splitFrom]
    split
    · exact ih _
    · simp [ih]

theorem ofCodePoint_ne_nil (c : CodePoint) : ofCodePoint c ≠ [] := by
  unfold ofCodePoint; split <;> simp

/-- No cluster is empty. -/
theorem graphemes_ne_nil (t : Text) : [] ∉ graphemes t := by
  have key : ∀ cs, [] ∉ clusters cs := by
    intro cs
    cases cs with
    | nil => simp [clusters]
    | cons c cs => simp [clusters, splitFrom_ne_nil]
  intro h
  obtain ⟨g, hg, he⟩ := List.mem_map.1 h
  cases g with
  | nil => exact key _ hg
  | cons c g =>
    simp only [ofCodePoints, List.flatMap_cons, List.append_eq_nil_iff] at he
    exact ofCodePoint_ne_nil c he.1

end Text

end EditorGutter
