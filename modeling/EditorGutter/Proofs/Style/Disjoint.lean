import EditorGutter.Proofs.Gutter.Binding
import EditorGutter.Proofs.Theme.Construction
import EditorGutter.Sample

/-!
No style turns a modifier both on and off.

Turning modifiers on takes them from the mask of those that are turned off, and the other way round,
so two masks stay apart when they are changed this way (`Style.Disjoint.addModifier`,
`Style.Disjoint.removeModifier`).  Laying one style over another changes each mask of the lower one
by both masks of the upper one.  What is in both masks afterwards is in both masks of the upper
style, or in both masks of the lower one and in none of the upper (`maskInter_patch`); so the masks
of a patched style are apart if those of its parts are.

Hence they are apart in every style that is made from the style that changes nothing
(`Style.Built`).  Everything that is drawn is made in this way: the styles of a theme
(`Theme.built_ofDefinition`), what the gutters of the editor draw with them
(`GutterKind.built_of_bind`), and the rows and cells of a frame.  The main result is
`disjoint_throughout`.
-/
namespace EditorGutter

/-! ### Masks -/

/-- A modifier that is in both of two masks after they have been changed by the same two others. -/
theorem bit_inter_over : ∀ x y off on : Bool,
    ((x && !off || on) && (y && !on || off)) = (x && y && !(off || on) || off && on) := by
  decide

theorem word_inter_over (x y off on : BitVec 32) :
    (x &&& ~~~off ||| on) &&& (y &&& ~~~on ||| off) =
      x &&& y &&& ~~~(off ||| on) ||| off &&& on := by
  apply BitVec.eq_of_getLsbD_eq
  intro i hi
  simp only [BitVec.getLsbD_or, BitVec.getLsbD_and, BitVec.getLsbD_not, hi, decide_true,
    Bool.true_and]
  exact bit_inter_over _ _ _ _

theorem maskInter_eq_zero {a b : Number} : maskInter a b = 0 ↔ a.toWord &&& b.toWord = 0#32 := by
  constructor
  · intro h
    have hword := congrArg Number.toWord h
    rwa [maskInter, Number.toWord_ofWord, toWord_zero] at hword
  · intro h
    rw [maskInter, h]
    rfl

/-- What two masks have in common once one has lost `off` and gained `on`, and the other one has
lost `on` and gained `off`. -/
theorem maskInter_maskOver (m m' off on : Number) :
    maskInter (maskOver m off on) (maskOver m' on off) =
      maskUnion (maskWithout (maskInter m m') (maskUnion off on)) (maskInter off on) := by
  simp only [maskOver_eq, maskInter, maskWithout, maskUnion, Number.toWord_ofWord]
  rw [word_inter_over]

namespace Style

/-! ### Disjoint masks -/

/-- A style turns no modifier both on and off. -/
def Disjoint (s : Style) : Prop := maskInter s.add s.sub = 0

instance (s : Style) : Decidable s.Disjoint := inferInstanceAs (Decidable (_ = _))

/-- What both masks of a patched style have in common comes from one of its parts. -/
theorem maskInter_patch (base layer : Style) :
    maskInter (base.patch layer).add (base.patch layer).sub =
      maskUnion (maskWithout (maskInter base.add base.sub) (maskUnion layer.sub layer.add))
        (maskInter layer.sub layer.add) := by
  rw [patch_eq]
  exact maskInter_maskOver _ _ _ _

namespace Disjoint

variable {s : Style}

theorem symm (h : s.Disjoint) : maskInter s.sub s.add = 0 := by
  rw [maskInter_eq_zero, BitVec.and_comm]
  exact maskInter_eq_zero.mp h

theorem patch {base layer : Style} (hbase : base.Disjoint) (hlayer : layer.Disjoint) :
    (base.patch layer).Disjoint := by
  show maskInter _ _ = 0
  rw [maskInter_patch, hlayer.symm, show maskInter base.add base.sub = 0 from hbase]
  simp [maskUnion, maskWithout, toWord_zero]
  rfl

/-- A style that only turns modifiers on. -/
theorem only_add (mask : Number) : (empty.addModifier mask).Disjoint := by
  show maskInter _ (maskWithout 0 mask) = 0
  rw [maskInter_eq_zero, maskWithout, Number.toWord_ofWord, toWord_zero]
  simp

/-- A style that only turns modifiers off. -/
theorem only_remove (mask : Number) : (empty.removeModifier mask).Disjoint := by
  show maskInter (maskWithout 0 mask) _ = 0
  rw [maskInter_eq_zero, maskWithout, Number.toWord_ofWord, toWord_zero]
  simp

theorem addModifier (h : s.Disjoint) (mask : Number) : (s.addModifier mask).Disjoint := by
  rw [addModifier_eq_patch]
  exact h.patch (only_add mask)

theorem removeModifier (h : s.Disjoint) (mask : Number) : (s.removeModifier mask).Disjoint := by
  rw [removeModifier_eq_patch]
  exact h.patch (only_remove mask)

end Disjoint

/-! ### Styles that are made from nothing -/

/-- The styles that are made from the style that changes nothing. -/
inductive Built : Style → Prop
  | empty : Built empty
  | withFg {s : Style} (h : Built s) (color : Color) : Built (s.withFg color)
  | withBg {s : Style} (h : Built s) (color : Color) : Built (s.withBg color)
  | addModifier {s : Style} (h : Built s) (mask : Number) : Built (s.addModifier mask)
  | removeModifier {s : Style} (h : Built s) (mask : Number) : Built (s.removeModifier mask)
  | patch {base layer : Style} (hbase : Built base) (hlayer : Built layer) :
    Built (base.patch layer)

/-- Each way of making a style keeps its masks apart. -/
theorem Built.disjoint {s : Style} (h : s.Built) : s.Disjoint := by
  induction h with
  | empty => rfl
  | withFg _ _ ih => exact ih
  | withBg _ _ ih => exact ih
  | addModifier _ mask ih => exact ih.addModifier mask
  | removeModifier _ mask ih => exact ih.removeModifier mask
  | patch _ _ ihbase ihlayer => exact ihbase.patch ihlayer

end Style

/-! ### Themes -/

namespace ScopeEntry

variable {palette : List (Text × Text)} {s s' : Style}

theorem built_setColor {set : Color → Style → Style} {color : Option Text}
    (hset : ∀ c, (set c s).Built) (hs : s.Built) (h : setColor palette set color s = .ok s') :
    s'.Built := by
  obtain ⟨c?, -, rfl⟩ := exists_of_setColor h
  cases c? with
  | none => exact hs
  | some c => exact hset c

theorem built_addModifiers {names : List Text} (hs : s.Built) (h : addModifiers s names = .ok s') :
    s'.Built := by
  induction names generalizing s with
  | nil =>
    obtain rfl := Except.ok.inj h
    exact hs
  | cons name rest ih =>
    rw [addModifiers] at h
    split at h
    · exact ih (hs.addModifier _) h
    · cases h

theorem built_resolve {entry : ScopeEntry} (h : entry.resolve palette = .ok s) : s.Built := by
  rw [resolve_eq] at h
  obtain ⟨s₁, hfg, h⟩ := exists_of_bind_eq_ok h
  obtain ⟨s₂, hbg, h⟩ := exists_of_bind_eq_ok h
  have h₁ : s₁.Built := built_setColor (fun c => .withFg .empty c) .empty hfg
  have h₂ : s₂.Built := built_setColor (fun c => .withBg h₁ c) h₁ hbg
  exact built_addModifiers h₂ h

end ScopeEntry

namespace Theme

variable {theme : Theme}

/-- All styles of a theme are made from the style that changes nothing. -/
def Built (theme : Theme) : Prop := ∀ scope s, theme.style? scope = some s → s.Built

theorem built_ofDefinition {name : Text} {d : ThemeDefinition}
    (h : ofDefinition name d = .ok theme) : theme.Built := by
  intro scope s hs
  obtain ⟨entry, -, hdescribes⟩ := exists_entry_of_style? h hs
  exact ScopeEntry.built_resolve (ScopeEntry.resolve_eq_ok.mpr hdescribes)

theorem Built.of_style {scope : Text} {s : Style} (htheme : theme.Built)
    (h : theme.style scope = .ok s) : s.Built := by
  unfold style at h
  split at h
  · next hs =>
    obtain rfl := Except.ok.inj h
    exact htheme scope _ hs
  · cases h

end Theme

/-! ### Gutters -/

theorem DiagnosticStyles.built_of {styles : DiagnosticStyles} (hwarning : styles.warning.Built)
    (herror : styles.error.Built) (hinfo : styles.info.Built) (hhint : styles.hint.Built)
    (severity : Option Severity) : (styles.of severity).Built := by
  rcases severity with - | severity
  · exact hwarning
  · cases severity with
    | error => exact herror
    | warning => exact hwarning
    | info => exact hinfo
    | hint => exact hhint

theorem BreakpointStyles.built_of {styles : BreakpointStyles} (hwarning : styles.warning.Built)
    (herror : styles.error.Built) (hinfo : styles.info.Built) (b : Breakpoint) :
    (styles.of b).Built := by
  have hshown : ∀ plain : Style, plain.Built →
      Style.Built (if b.verified then plain else plain.withFg (Color.fade plain.fg)) := by
    intro plain hplain
    split
    · exact hplain
    · exact .withFg hplain _
  unfold of
  apply hshown
  split
  · exact .addModifier herror _
  · exact herror
  · exact hinfo
  · exact hwarning

/-- Bound to a scene, a gutter of the editor draws with styles of the theme, or with such styles
underlined or faded. -/
theorem GutterKind.built_of_bind {kind : GutterKind} {scene : Scene} {width : Nat}
    {draw : LineRenderer} (htheme : scene.theme.Built) (h : kind.bind scene width = .ok draw)
    {line : Number} {selected : Bool} {s : Style} (hs : (draw line selected).style = some s) :
    s.Built := by
  cases kind with
  | diagnostics =>
    obtain ⟨warning, hwarning, h⟩ := exists_of_bind_eq_ok ((bindDiagnostics_eq scene).symm.trans h)
    obtain ⟨error, herror, h⟩ := exists_of_bind_eq_ok h
    obtain ⟨info, hinfo, h⟩ := exists_of_bind_eq_ok h
    obtain ⟨hint, hhint, h⟩ := exists_of_bind_eq_ok h
    obtain rfl := Except.ok.inj h
    unfold drawDiagnostic at hs
    split at hs
    · obtain rfl := Option.some.inj hs
      exact DiagnosticStyles.built_of (htheme.of_style hwarning) (htheme.of_style herror)
        (htheme.of_style hinfo) (htheme.of_style hhint) _
    · cases hs
  | lineNumbers =>
    have hbind := (bindLineNumbers_eq scene width).symm.trans h
    obtain ⟨plain, hplain, h⟩ := exists_of_bind_eq_ok hbind
    obtain ⟨cursor, -, h⟩ := exists_of_bind_eq_ok h
    obtain rfl := Except.ok.inj h
    have hplain := htheme.of_style hplain
    unfold drawNumber at hs
    split at hs
    · obtain rfl := Option.some.inj hs
      exact hplain
    · obtain rfl := Option.some.inj hs
      split
      · -- the style of selected numbers is optional
        rcases hselected : scene.theme.style? Scope.lineNumberSelected.text with - | selectedStyle
        · exact hplain
        · exact htheme _ _ hselected
      · exact hplain
  | breakpoints =>
    obtain ⟨warning, hwarning, h⟩ := exists_of_bind_eq_ok ((bindBreakpoints_eq scene).symm.trans h)
    obtain ⟨error, herror, h⟩ := exists_of_bind_eq_ok h
    obtain ⟨info, hinfo, h⟩ := exists_of_bind_eq_ok h
    split at h
    · cases h
    · obtain rfl := Except.ok.inj h
      unfold drawBreakpoint at hs
      split at hs
      · obtain rfl := Option.some.inj hs
        exact BreakpointStyles.built_of (htheme.of_style hwarning) (htheme.of_style herror)
          (htheme.of_style hinfo) _
      · cases hs

/-! ### Frames -/

theorem built_overBase {base : Style} {layer : Option Style} (hbase : base.Built)
    (hlayer : ∀ s, layer = some s → s.Built) : (overBase base layer).Built := by
  rcases layer with - | s
  · exact hbase
  · exact .patch hbase (hlayer s rfl)

theorem Scene.built_baseStyle {scene : Scene} (h : scene.theme.Built) : scene.baseStyle.Built := by
  unfold baseStyle
  rcases hs : scene.theme.style? Scope.gutter.text with - | s
  · exact .empty
  · exact h _ _ hs

/-- The styles of a row and of its cells are made from those that its columns draw with. -/
theorem built_drawRow {base : Style} {cursorLines : List Nat} {bound : List BoundColumn}
    {line : Number} (hbase : base.Built)
    (hbound : ∀ b ∈ bound, ∀ selected s, (b.draw line selected).style = some s → s.Built) :
    (drawRow base cursorLines bound line).style.Built ∧
      ∀ cell ∈ (drawRow base cursorLines bound line).cells, cell.style.Built := by
  constructor
  · refine built_overBase hbase ?_
    intro s hs
    obtain ⟨b, hb, hstyle⟩ := List.exists_of_findSome?_eq_some hs
    exact hbound b hb _ s hstyle
  · intro cell hcell
    obtain ⟨b, hb, rfl⟩ := List.mem_map.mp hcell
    exact built_overBase hbase (hbound b hb _)

namespace Columns

variable {cs : Columns} {scene : Scene} {frame : Frame}

/-- A frame of the editor's gutters has only styles that are made from the style that changes
nothing. -/
theorem built_render (hcs : cs.Builtin) (htheme : scene.theme.Built)
    (h : cs.render scene = .ok frame) :
    ∀ row ∈ frame.rows, row.style.Built ∧ ∀ cell ∈ row.cells, cell.style.Built := by
  obtain ⟨bound, hbound, -, hrows⟩ := render_eq_ok.mp h
  intro row hrow
  rw [hrows] at hrow
  obtain ⟨line, -, rfl⟩ := List.mem_map.mp hrow
  refine built_drawRow (Scene.built_baseStyle htheme) ?_
  intro b hb selected s hs
  -- every bound column is one of the columns, and so a gutter of the editor
  obtain ⟨c, hc, -, hbind⟩ := exists_boundAs hbound hb
  obtain ⟨kind, hkind⟩ := hcs c hc
  rw [hkind] at hbind
  exact GutterKind.built_of_bind htheme hbind hs

end Columns

/-- **No style turns a modifier both on and off**: no style that is made from the style that changes
nothing, by setting colors, turning modifiers on and off and laying styles over one another, in
whatever combination and with whatever masks; no style of a theme that is made from a definition;
and no style of a row or of a cell that the gutters of the editor draw with such a theme. -/
theorem Style.disjoint_throughout :
    (∀ s : Style, s.Built → s.Disjoint) ∧
    ∀ (name : Text) (d : ThemeDefinition) (theme : Theme), Theme.ofDefinition name d = .ok theme →
      (∀ scope s, theme.style? scope = some s → s.Disjoint) ∧
      ∀ (cs : Columns) (scene : Scene) (frame : Frame), cs.Builtin → scene.theme = theme →
        cs.render scene = .ok frame →
        ∀ row ∈ frame.rows, row.style.Disjoint ∧ ∀ cell ∈ row.cells, cell.style.Disjoint := by
  refine ⟨fun s hs => hs.disjoint, ?_⟩
  intro name d theme htheme
  have hbuilt := Theme.built_ofDefinition htheme
  refine ⟨fun scope s hs => (hbuilt scope s hs).disjoint, ?_⟩
  rintro cs scene frame hcs rfl h row hrow
  obtain ⟨hstyle, hcells⟩ := Columns.built_render hcs hbuilt h row hrow
  exact ⟨hstyle.disjoint, fun cell hcell => (hcells cell hcell).disjoint⟩

/-- Bold and dim on and italic off, laid over italic on and bold off. -/
def Style.crossed : Style :=
  ((empty.addModifier 0b100).removeModifier 0b001).patch
    ((empty.removeModifier 0b100).addModifier 0b011)

/-- The modifiers of a crossed patch, of the dark theme and of the rows of the sample scene. -/
theorem Style.disjoint_throughout_sample :
    Style.crossed.add = 0b011 ∧ Style.crossed.sub = 0b100 ∧ Style.crossed.Disjoint ∧
      Theme.ofDefinition (Text.ofString "dark") ThemeDefinition.dark = .ok Theme.dark ∧
      (Theme.dark.style? Scope.lineNumberSelected.text).any (fun s => s.add.equals 1) ∧
      (∀ scope s, Theme.dark.style? scope = some s → s.Disjoint) ∧
      ∃ frame, (Columns.oneEach 1 Nat.one_pos).render (Sample.scene .absolute) = .ok frame ∧
        frame.rows.length = 7 ∧
        ∀ row ∈ frame.rows, row.style.Disjoint ∧ ∀ cell ∈ row.cells, cell.style.Disjoint := by
  obtain ⟨hmade, hthemes⟩ := Style.disjoint_throughout
  have hcrossed : Style.crossed.Built :=
    .patch (.removeModifier (.addModifier .empty _) _) (.addModifier (.removeModifier .empty _) _)
  have hdark : Theme.ofDefinition (Text.ofString "dark") ThemeDefinition.dark = .ok Theme.dark := by
    decide +kernel
  obtain ⟨hstyles, hframes⟩ := hthemes _ _ _ hdark
  obtain ⟨frame, h⟩ : ∃ frame,
      (Columns.oneEach 1 Nat.one_pos).render (Sample.scene .absolute) = .ok frame :=
    exists_eq_ok (by decide +kernel)
  refine ⟨by decide +kernel, by decide +kernel, hmade _ hcrossed, hdark, by decide +kernel, hstyles,
    frame, h, ?_, hframes _ _ frame (Columns.builtin_oneEach _ _) rfl h⟩
  obtain ⟨bound, -, -, hrows⟩ := Columns.render_eq_ok.mp h
  rw [hrows, List.length_map]
  decide +kernel

end EditorGutter
