import EditorGutter.Proofs.Gutter.Lookups
import EditorGutter.Proofs.Style.Patching
import EditorGutter.Sample

/-!
What the marks of diagnostics and breakpoints show, told by scanning the lists.

A bound gutter looks a line up in a table of the first item on each line.  The table answers as a
scan of the list from its start does (`get?_firstByLine`), so what is drawn on a line depends on
the first diagnostic or breakpoint there (`Theme.scanDiagnostics`, `Theme.scanBreakpoints`), and
faded channels are two fifths of what they were (`Color.fade_eq_dimmed`).  The main result is
`marks_eq_scan`.
-/
namespace EditorGutter

open Text

/-! ### The table of first items -/

section

variable {α : Type} {lineOf : α → Number}

theorem get?_foldl_insertNew (items : List α) (m : OrderedMap Number α) (line : Number) :
    (items.foldl (fun m a => m.insertNew (lineOf a) a) m).get? line =
      (m.get? line).or (items.find? fun a => lineOf a = line) := by
  induction items generalizing m with
  | nil => exact (Option.or_none).symm
  | cons a rest ih =>
    rw [List.foldl_cons, ih, OrderedMap.get?_insertNew, Option.or_assoc, List.find?_cons]
    by_cases h : lineOf a = line
    · simp [h]
    · simp [h]

/-- **Looking a line up gives the first item on it**, whatever comes after. -/
theorem get?_firstByLine (items : List α) (line : Number) :
    (firstByLine lineOf items).get? line = items.find? fun a => lineOf a = line := by
  rw [firstByLine, get?_foldl_insertNew, OrderedMap.get?_empty, Option.none_or]

end

/-! ### Fading -/

/-- Whether a value is a count of eight bits. -/
def Number.isByte (x : Number) : Bool := x.toNat?.any fun c => decide (c < 256)

/-- Whether the channels of a color, if it has any, are bytes. -/
def Color.hasBytes : Color → Bool
  | .rgb r g b => r.isByte && g.isByte && b.isByte
  | _ => true

/-- Two fifths of a count, rounded down. -/
def twoFifths (x : Number) : Number :=
  match x.toNat? with
  | some c => ((2 * c / 5 : Nat) : Number)
  | none => x

/-- Two fifths of each channel, or gray if there are none. -/
def Color.dimmed : Option Color → Color
  | some (.rgb r g b) => .rgb (twoFifths r) (twoFifths g) (twoFifths b)
  | some (.named _) | some (.indexed _) | none => .named .gray

/-- The share is a little more than two fifths, but not so much that a byte is rounded past a whole
value. -/
theorem Color.fadeChannel_natCast :
    ∀ c : Nat, c < 256 → fadeChannel (c : Number) = ((2 * c / 5 : Nat) : Number) := by
  decide +kernel

theorem Color.fadeChannel_eq {x : Number} (h : x.isByte = true) : fadeChannel x = twoFifths x := by
  obtain ⟨c, hx, hc⟩ := (Option.any_eq_true _ _).mp h
  obtain rfl := Number.toNat?_eq_some_iff.mp hx
  rw [twoFifths, Number.toNat?_natCast]
  exact fadeChannel_natCast c (of_decide_eq_true hc)

theorem Color.fade_eq_dimmed {fg : Option Color} (h : fg.all hasBytes = true) :
    fade fg = dimmed fg := by
  rcases fg with - | color
  · rfl
  · cases color with
    | named name => rfl
    | indexed index => rfl
    | rgb r g b =>
      obtain ⟨hrg, hb⟩ := Bool.and_eq_true_iff.mp h
      obtain ⟨hr, hg⟩ := Bool.and_eq_true_iff.mp hrg
      show Color.rgb _ _ _ = Color.rgb _ _ _
      rw [fadeChannel_eq hr, fadeChannel_eq hg, fadeChannel_eq hb]

/-! ### Scanning -/

/-- The scope that marks a severity; a diagnostic without one is marked as a warning. -/
def Severity.scope : Option Severity → Scope
  | some .error => .error
  | some .info => .info
  | some .hint => .hint
  | some .warning => .warning
  | none => .warning

/-- The scope that marks a breakpoint: a condition comes before a log message. -/
def Breakpoint.scope (b : Breakpoint) : Scope :=
  if b.condition.isSome then .error
  else if b.logMessage.isSome then .info
  else .warning

/-- The style of a breakpoint before it is known whether it is confirmed: underlined if it has both
a condition and a log message, which is the fourth bit of a mask. -/
def Breakpoint.plainStyle (b : Breakpoint) (s : Style) : Style :=
  if b.condition.isSome ∧ b.logMessage.isSome then
    { s with add := s.add.withBit 3 true, sub := s.sub.withBit 3 false }
  else s

namespace Theme

variable {theme : Theme}

/-- The mark of the first of some diagnostics on a line. -/
def scanDiagnostics (theme : Theme) (ds : List Diagnostic) (line : Number) : Mark :=
  match ds.find? fun d => d.line = line with
  | none => {}
  | some d => { text := ofString "●", style := theme.style? (Severity.scope d.severity).text }

/-- The mark of the first of some breakpoints on a line. -/
def scanBreakpoints (theme : Theme) (bs : List Breakpoint) (line : Number) : Mark :=
  match bs.find? fun b => b.line = line with
  | none => {}
  | some b =>
    let style := (theme.style? b.scope.text).map b.plainStyle
    if b.verified then { text := ofString "▲", style := style }
    else
      { text := ofString "⊚"
        style := style.map fun s => { s with fg := some (Color.dimmed s.fg) } }

/-- A theme has styles for some scopes. -/
def Has (theme : Theme) (scopes : List Scope) : Prop :=
  ∀ scope ∈ scopes, (theme.style? scope.text).isSome

/-- The foregrounds of some scopes have bytes for channels. -/
def HasByteColors (theme : Theme) (scopes : List Scope) : Prop :=
  ∀ scope ∈ scopes, (theme.style? scope.text).all fun s => s.fg.all Color.hasBytes

theorem style_eq_ok {scope : Scope} {s : Style} (h : theme.style? scope.text = some s) :
    theme.style scope.text = .ok s := by
  rw [style, h]

end Theme

/-! ### Styles by scope -/

/-- The style of a severity is that of its scope. -/
theorem DiagnosticStyles.of_eq {theme : Theme} {styles : DiagnosticStyles}
    (hwarning : theme.style? Scope.warning.text = some styles.warning)
    (herror : theme.style? Scope.error.text = some styles.error)
    (hinfo : theme.style? Scope.info.text = some styles.info)
    (hhint : theme.style? Scope.hint.text = some styles.hint) (severity : Option Severity) :
    theme.style? (Severity.scope severity).text = some (styles.of severity) := by
  rcases severity with - | severity
  · exact hwarning
  · cases severity with
    | error => exact herror
    | warning => exact hwarning
    | info => exact hinfo
    | hint => exact hhint

/-- Underlining turns the fourth bit on in one mask and off in the other. -/
theorem Breakpoint.plainStyle_of_both {b : Breakpoint}
    (h : b.condition.isSome ∧ b.logMessage.isSome) (s : Style) :
    b.plainStyle s = s.addModifier Modifier.underlined.mask := by
  rw [plainStyle, if_pos h, Style.addModifier, maskUnion_mask, maskWithout_mask]
  rfl

/-- The style of a breakpoint is that of its scope, underlined and faded as it calls for. -/
theorem BreakpointStyles.of_eq {theme : Theme} {styles : BreakpointStyles}
    (hwarning : theme.style? Scope.warning.text = some styles.warning)
    (herror : theme.style? Scope.error.text = some styles.error)
    (hinfo : theme.style? Scope.info.text = some styles.info) (b : Breakpoint) :
    ∃ s, theme.style? b.scope.text = some s ∧
      styles.of b =
        if b.verified then b.plainStyle s
        else (b.plainStyle s).withFg (Color.fade (b.plainStyle s).fg) := by
  have hboth := fun h => b.plainStyle_of_both h styles.error
  obtain ⟨line, verified, id, message, column, condition, hitCondition, logMessage⟩ := b
  rcases condition with - | condition
  · rcases logMessage with - | logMessage
    · exact ⟨styles.warning, hwarning, rfl⟩
    · exact ⟨styles.info, hinfo, rfl⟩
  · rcases logMessage with - | logMessage
    · exact ⟨styles.error, herror, rfl⟩
    · refine ⟨styles.error, herror, ?_⟩
      rw [hboth ⟨rfl, rfl⟩]
      rfl

theorem Breakpoint.scope_mem (b : Breakpoint) :
    b.scope ∈ GutterKind.breakpoints.requiredScopes := by
  unfold Breakpoint.scope
  split
  · decide
  · split
    · decide
    · decide

/-- Underlining leaves the foreground alone. -/
@[simp] theorem Breakpoint.plainStyle_fg (b : Breakpoint) (s : Style) :
    (b.plainStyle s).fg = s.fg := by
  unfold plainStyle
  split
  · rfl
  · rfl

/-! ### Bound marks -/

/-- Bound diagnostics draw what a scan of the diagnostics finds. -/
theorem exists_bind_diagnostics (scene : Scene) (width : Nat)
    (h : scene.theme.Has GutterKind.diagnostics.requiredScopes) :
    ∃ draw, GutterKind.diagnostics.bind scene width = .ok draw ∧
      ∀ line selected, draw line selected =
        scene.theme.scanDiagnostics scene.doc.diagnostics line := by
  obtain ⟨warning, hwarning⟩ := Option.isSome_iff_exists.mp (h .warning (by decide))
  obtain ⟨error, herror⟩ := Option.isSome_iff_exists.mp (h .error (by decide))
  obtain ⟨info, hinfo⟩ := Option.isSome_iff_exists.mp (h .info (by decide))
  obtain ⟨hint, hhint⟩ := Option.isSome_iff_exists.mp (h .hint (by decide))
  refine ⟨drawDiagnostic scene ⟨warning, error, info, hint⟩, ?_, ?_⟩
  · show bindDiagnostics scene = _
    rw [bindDiagnostics_eq, Theme.style_eq_ok hwarning, Theme.style_eq_ok herror,
      Theme.style_eq_ok hinfo, Theme.style_eq_ok hhint]
    rfl
  · intro line selected
    unfold drawDiagnostic Theme.scanDiagnostics
    rw [get?_firstByLine]
    rcases scene.doc.diagnostics.find? _ with - | d
    · rfl
    · have hstyle := @DiagnosticStyles.of_eq scene.theme ⟨warning, error, info, hint⟩ hwarning
        herror hinfo hhint d.severity
      show Mark.mk _ _ = Mark.mk _ _
      rw [hstyle]
      rfl

/-- Bound breakpoints draw what a scan of the breakpoints of the file finds. -/
theorem exists_bind_breakpoints (scene : Scene) (width : Nat) {path : Text}
    (hpath : scene.doc.path = some path)
    (h : scene.theme.Has GutterKind.breakpoints.requiredScopes)
    (hbytes : scene.theme.HasByteColors GutterKind.breakpoints.requiredScopes) :
    ∃ draw, GutterKind.breakpoints.bind scene width = .ok draw ∧
      ∀ line selected, draw line selected =
        scene.theme.scanBreakpoints ((scene.editor.breakpoints.get? path).getD []) line := by
  obtain ⟨warning, hwarning⟩ := Option.isSome_iff_exists.mp (h .warning (by decide))
  obtain ⟨error, herror⟩ := Option.isSome_iff_exists.mp (h .error (by decide))
  obtain ⟨info, hinfo⟩ := Option.isSome_iff_exists.mp (h .info (by decide))
  refine ⟨drawBreakpoint (scene.editor.breakpoints.list path) ⟨warning, error, info⟩, ?_, ?_⟩
  · show bindBreakpoints scene = _
    rw [bindBreakpoints_eq, Theme.style_eq_ok hwarning, Theme.style_eq_ok herror,
      Theme.style_eq_ok hinfo, hpath]
    rfl
  · intro line selected
    unfold drawBreakpoint Theme.scanBreakpoints
    rw [get?_firstByLine, BreakpointStore.list]
    rcases List.find? _ _ with - | b
    · rfl
    · obtain ⟨s, hs, hstyle⟩ := @BreakpointStyles.of_eq scene.theme ⟨warning, error, info⟩
        hwarning herror hinfo b
      have hfade : Color.fade s.fg = Color.dimmed s.fg := by
        have hfg := hbytes _ b.scope_mem
        rw [hs] at hfg
        exact Color.fade_eq_dimmed hfg
      show Mark.mk _ _ = ite _ _ _
      rw [hstyle, hs, Breakpoint.plainStyle_fg, hfade, breakpointGlyph]
      rcases b.verified with - | -
      · simp only [Option.map_some, Breakpoint.plainStyle_fg]
        rfl
      · rfl

/-- **Marks are those of the first diagnostic and of the first breakpoint on a line.**  With the
scopes that they require both gutters are bound, breakpoints for a document with a file, and draw
on every line what scanning the lists gives. -/
theorem marks_eq_scan (scene : Scene) (width : Nat) :
    (scene.theme.Has GutterKind.diagnostics.requiredScopes →
      ∃ draw, GutterKind.diagnostics.bind scene width = .ok draw ∧
        ∀ line selected, draw line selected =
          scene.theme.scanDiagnostics scene.doc.diagnostics line) ∧
    ∀ path, scene.doc.path = some path →
      scene.theme.Has GutterKind.breakpoints.requiredScopes →
      scene.theme.HasByteColors GutterKind.breakpoints.requiredScopes →
      ∃ draw, GutterKind.breakpoints.bind scene width = .ok draw ∧
        ∀ line selected, draw line selected =
          scene.theme.scanBreakpoints ((scene.editor.breakpoints.get? path).getD []) line := by
  refine ⟨exists_bind_diagnostics scene width, ?_⟩
  intro path hpath hscopes hbytes
  exact exists_bind_breakpoints scene width hpath hscopes hbytes

/-- The sample scene with two breakpoints on its fifth line, the first with a condition and a log
message. -/
def crowdedScene : Scene :=
  { Sample.scene .absolute with
    editor := ⟨Sample.config .absolute, BreakpointStore.empty.set Sample.path
      [{ line := 4, verified := false, condition := some (ofString "n > 3"),
         logMessage := some (ofString "n") },
       { line := 4, verified := true }]⟩ }

/-- The first breakpoint on the fifth line is conditional and not confirmed, so it is drawn hollow,
in two fifths of the color of errors, and underlined for its log message; on the second line there
is a diagnostic and no breakpoint. -/
theorem marks_eq_scan_crowded :
    crowdedScene.theme.Has GutterKind.diagnostics.requiredScopes ∧
      crowdedScene.doc.path = some Sample.path ∧
      crowdedScene.theme.Has GutterKind.breakpoints.requiredScopes ∧
      crowdedScene.theme.HasByteColors GutterKind.breakpoints.requiredScopes ∧
      ∃ drawDiagnostics drawBreakpoints,
        GutterKind.diagnostics.bind crowdedScene 1 = .ok drawDiagnostics ∧
        GutterKind.breakpoints.bind crowdedScene 1 = .ok drawBreakpoints ∧
        drawDiagnostics 1 false =
          { text := ofString "●", style := some { fg := some (.rgb 244 71 71) } } ∧
        drawBreakpoints 1 false = {} ∧
        drawBreakpoints 4 false =
          { text := ofString "⊚", style := some { fg := some (.rgb 97 28 28), add := 8 } } := by
  have hdiagnostics : crowdedScene.theme.Has GutterKind.diagnostics.requiredScopes := by
    unfold Theme.Has
    decide +kernel
  have hbreakpoints : crowdedScene.theme.Has GutterKind.breakpoints.requiredScopes := by
    unfold Theme.Has
    decide +kernel
  have hbytes : crowdedScene.theme.HasByteColors GutterKind.breakpoints.requiredScopes := by
    unfold Theme.HasByteColors
    decide +kernel
  obtain ⟨hscan, hscan'⟩ := marks_eq_scan crowdedScene 1
  obtain ⟨draw, hbind, hdraw⟩ := hscan hdiagnostics
  obtain ⟨draw', hbind', hdraw'⟩ := hscan' Sample.path rfl hbreakpoints hbytes
  refine ⟨hdiagnostics, rfl, hbreakpoints, hbytes, draw, draw', hbind, hbind', ?_, ?_, ?_⟩
  · rw [hdraw]
    decide +kernel
  · rw [hdraw']
    decide +kernel
  · rw [hdraw']
    decide +kernel

end EditorGutter
