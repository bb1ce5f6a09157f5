import EditorGutter.Proofs.Results
import EditorGutter.Proofs.Style.Patching
import EditorGutter.Proofs.Text.Spelling
import EditorGutter.Proofs.Value.Enumeration
import EditorGutter.Theme.Basic

/-!
How a theme is made from its definition.

What is wrong with an entry can be listed without resolving it (`ScopeEntry.faults`), and resolving
it fails with the first fault of the list (`ScopeEntry.resolve_eq_error`).  An entry without faults
is resolved to the one style that it describes (`ScopeEntry.resolve_eq_ok`): the mask of the style
has a bit for each modifier that is listed somewhere, so neither the order nor the repetition of the
modifiers matters.

Entries are resolved in the order of enumeration, so a definition fails at the first of its
malformed entries in that order, and otherwise each scope gets the style that its entry describes
(`Theme.ofDefinition_exact`).
-/
namespace EditorGutter

/-! ### What an entry says -/

namespace Modifier

/-- A name is one of those of the modifiers. -/
def Named (name : Text) : Prop := ∃ m : Modifier, Text.ofString m.name = name

theorem ofText?_text (m : Modifier) : ofText? (Text.ofString m.name) = some m := by
  cases m <;> decide

theorem ofText?_eq_some {name : Text} {m : Modifier} :
    ofText? name = some m ↔ Text.ofString m.name = name :=
  find?_spelled_eq_some ofText?_text

theorem ofText?_eq_none {name : Text} : ofText? name = none ↔ ¬ Named name :=
  find?_spelled_eq_none mem_all

/-- No two modifiers have the same name. -/
theorem text_inj {m m' : Modifier} :
    Text.ofString m.name = Text.ofString m'.name ↔ m = m' := by
  rw [← ofText?_eq_some, ofText?_text, Option.some.injEq, eq_comm]

end Modifier

namespace ScopeEntry

variable {palette : List (Text × Text)} {entry : ScopeEntry} {s s' : Style}

/-- The text of the foreground. -/
def fg? : ScopeEntry → Option Text
  | color fg => some fg
  | parts fg _ _ => fg

/-- The text of the background. -/
def bg? : ScopeEntry → Option Text
  | color _ => none
  | parts _ bg _ => bg

/-- The names of the modifiers. -/
def modifiers : ScopeEntry → List Text
  | color _ => []
  | parts _ _ modifiers => modifiers

/-- An entry has a color that cannot be read, or a modifier that does not exist. -/
def Malformed (palette : List (Text × Text)) (entry : ScopeEntry) : Prop :=
  (∃ text, (entry.fg? = some text ∨ entry.bg? = some text) ∧
    ∃ fault, Color.parse palette text = .error fault) ∨
  ∃ name ∈ entry.modifiers, ¬ Modifier.Named name

/-- A style is the one that an entry describes: its colors are those of the entry, and it turns on
the modifiers of the entry and turns off none. -/
structure Describes (palette : List (Text × Text)) (entry : ScopeEntry) (s : Style) : Prop where
  fg : Option.Rel (fun text color => Color.parse palette text = .ok color) entry.fg? s.fg
  bg : Option.Rel (fun text color => Color.parse palette text = .ok color) entry.bg? s.bg
  known : ∀ name ∈ entry.modifiers, Modifier.Named name
  mask : s.add.IsMask
  /-- The mask has the bits of the modifiers that are listed, and no others. -/
  bit : ∀ i, s.add.toWord.getLsbD i = true ↔
    ∃ m : Modifier, m.bit = i ∧ Text.ofString m.name ∈ entry.modifiers
  sub : s.sub = 0

/-- An entry is resolved to its foreground, its background and its modifiers in turn. -/
theorem resolve_eq (palette : List (Text × Text)) (entry : ScopeEntry) :
    entry.resolve palette =
      (setColor palette Style.withFg entry.fg? Style.empty).bind fun s =>
      (setColor palette Style.withBg entry.bg? s).bind fun s => addModifiers s entry.modifiers := by
  cases entry with
  | color fg =>
    show setColor palette Style.withFg (some fg) Style.empty =
      (setColor palette Style.withFg (some fg) Style.empty).bind Except.ok
    rcases setColor palette Style.withFg (some fg) Style.empty with fault | s
    · rfl
    · rfl
  | parts fg bg modifiers => rfl

/-! ### What is wrong with an entry -/

/-- What is wrong with a color, if there is one. -/
def colorFaults (palette : List (Text × Text)) : Option Text → List ThemeFault
  | none => []
  | some text =>
    match Color.parse palette text with
    | .error fault => [fault]
    | .ok _ => []

/-- What is wrong with modifiers: each that does not exist. -/
def modifierFaults (names : List Text) : List ThemeFault :=
  (names.filter fun name => (Modifier.ofText? name).isNone).map .unknownModifier

/-- What is wrong with an entry: with its foreground, its background and its modifiers. -/
def faults (palette : List (Text × Text)) (entry : ScopeEntry) : List ThemeFault :=
  colorFaults palette entry.fg? ++ (colorFaults palette entry.bg? ++ modifierFaults entry.modifiers)

theorem failsFirst_setColor (set : Color → Style → Style) (color : Option Text) (s : Style) :
    FailsFirst (setColor palette set color s) (colorFaults palette color) := by
  rcases color with - | text
  · exact ⟨s, rfl⟩
  · unfold setColor colorFaults
    dsimp only
    rcases Color.parse palette text with fault | c
    · exact rfl
    · exact ⟨set c s, rfl⟩

theorem failsFirst_addModifiers (names : List Text) (s : Style) :
    FailsFirst (addModifiers s names) (modifierFaults names) := by
  induction names generalizing s with
  | nil => exact ⟨s, rfl⟩
  | cons name rest ih =>
    unfold modifierFaults
    rw [addModifiers, List.filter_cons]
    rcases Modifier.ofText? name with - | m
    · exact rfl
    · exact ih (s.addModifier m.mask)

theorem failsFirst_resolve (palette : List (Text × Text)) (entry : ScopeEntry) :
    FailsFirst (entry.resolve palette) (entry.faults palette) := by
  rw [resolve_eq]
  exact (failsFirst_setColor _ _ _).bind fun s =>
    (failsFirst_setColor _ _ s).bind fun s => failsFirst_addModifiers _ s

/-- **An entry fails with the first thing that is wrong with it.** -/
theorem resolve_eq_error {cause : ThemeFault} :
    entry.resolve palette = .error cause ↔ (entry.faults palette).head? = some cause :=
  (failsFirst_resolve palette entry).eq_error_iff

theorem colorFaults_eq_nil {color : Option Text} :
    colorFaults palette color = [] ↔
      ∀ text, color = some text → ∃ c, Color.parse palette text = .ok c := by
  rcases color with - | text
  · exact iff_of_true rfl nofun
  · simp only [colorFaults, Option.some.injEq, forall_eq']
    rcases Color.parse palette text with fault | c
    · exact ⟨nofun, nofun⟩
    · exact iff_of_true rfl ⟨c, rfl⟩

theorem modifierFaults_eq_nil {names : List Text} :
    modifierFaults names = [] ↔ ∀ name ∈ names, Modifier.Named name := by
  unfold modifierFaults
  rw [List.map_eq_nil_iff, List.filter_eq_nil_iff]
  simp only [Option.isNone_iff_eq_none, Modifier.ofText?_eq_none, not_not]

/-- A malformed entry is one with which something is wrong. -/
theorem not_malformed_iff : ¬ entry.Malformed palette ↔ entry.faults palette = [] := by
  unfold Malformed faults
  rw [List.append_eq_nil_iff, List.append_eq_nil_iff, colorFaults_eq_nil, colorFaults_eq_nil,
    modifierFaults_eq_nil, not_or, ← and_assoc]
  refine and_congr ?_ (by push Not; rfl)
  simp only [← not_exists_eq_error_iff]
  constructor
  · intro h
    exact ⟨fun text ht hfault => h ⟨text, .inl ht, hfault⟩,
      fun text ht hfault => h ⟨text, .inr ht, hfault⟩⟩
  · rintro ⟨hfg, hbg⟩ ⟨text, ht | ht, hfault⟩
    · exact hfg text ht hfault
    · exact hbg text ht hfault

/-! ### The style of an entry -/

/-- A color that is set is the one that its text is read as. -/
theorem exists_of_setColor {set : Color → Style → Style} {color : Option Text}
    (h : setColor palette set color s = .ok s') :
    ∃ c? : Option Color,
      Option.Rel (fun text c => Color.parse palette text = .ok c) color c? ∧
        s' = c?.elim s fun c => set c s := by
  rcases color with - | text
  · obtain rfl := Except.ok.inj h
    exact ⟨none, .none, rfl⟩
  · unfold setColor at h
    dsimp only at h
    rcases hc : Color.parse palette text with fault | c
    · rw [hc] at h
      cases h
    · rw [hc] at h
      obtain rfl := Except.ok.inj h
      exact ⟨some c, .some hc, rfl⟩

/-- A style with more modifiers turned on, those of some names. -/
structure Adds (names : List Text) (s s' : Style) : Prop where
  fg : s'.fg = s.fg
  bg : s'.bg = s.bg
  known : ∀ name ∈ names, Modifier.Named name
  mask : s'.add.IsMask
  bit : ∀ i, s'.add.toWord.getLsbD i = true ↔
    s.add.toWord.getLsbD i = true ∨
      ∃ m : Modifier, m.bit = i ∧ Text.ofString m.name ∈ names
  sub : s'.sub = 0

/-- One more modifier first. -/
theorem Adds.cons {m : Modifier} {names : List Text}
    (h : Adds names (s.addModifier m.mask) s') : Adds (Text.ofString m.name :: names) s s' where
  fg := h.fg
  bg := h.bg
  known := List.forall_mem_cons.mpr ⟨⟨m, rfl⟩, h.known⟩
  mask := h.mask
  bit i := by
    have hadd : (s.addModifier m.mask).add = maskUnion s.add m.mask := rfl
    rw [h.bit, hadd, bit_maskUnion_mask, or_assoc]
    simp only [List.mem_cons, Modifier.text_inj]
    grind
  sub := h.sub

theorem adds_of_addModifiers {names : List Text} (hmask : s.add.IsMask) (hsub : s.sub = 0)
    (h : addModifiers s names = .ok s') : Adds names s s' := by
  induction names generalizing s with
  | nil =>
    obtain rfl := Except.ok.inj h
    exact ⟨rfl, rfl, nofun, hmask, fun i => by simp, hsub⟩
  | cons name rest ih =>
    rw [addModifiers] at h
    split at h
    · next m hm =>
      rw [← Modifier.ofText?_eq_some.mp hm]
      have hstay : (s.addModifier m.mask).sub = 0 := by
        show maskWithout s.sub m.mask = 0
        rw [hsub, zero_maskWithout]
      have hmask : (s.addModifier m.mask).add.IsMask := isMask_ofWord _
      exact (ih hmask hstay h).cons
    · cases h

theorem describes_of_resolve (h : entry.resolve palette = .ok s) : entry.Describes palette s := by
  rw [resolve_eq] at h
  obtain ⟨s₁, h₁, h⟩ := exists_of_bind_eq_ok h
  obtain ⟨s₂, h₂, h⟩ := exists_of_bind_eq_ok h
  obtain ⟨fg, hfg, rfl⟩ := exists_of_setColor h₁
  obtain ⟨bg, hbg, rfl⟩ := exists_of_setColor h₂
  -- the style that has its colors and is to get its modifiers
  have hcolors : bg.elim (fg.elim Style.empty fun c => Style.empty.withFg c)
      (fun c => (fg.elim Style.empty fun c => Style.empty.withFg c).withBg c) =
        { fg := fg, bg := bg } := by
    cases fg <;> cases bg <;> rfl
  rw [hcolors] at h
  have hadds := adds_of_addModifiers (isMask_ofWord 0) rfl h
  refine ⟨hadds.fg ▸ hfg, hadds.bg ▸ hbg, hadds.known, hadds.mask, ?_, hadds.sub⟩
  intro i
  rw [hadds.bit]
  simp [toWord_zero]

/-- There is only one style that an entry describes. -/
theorem Describes.unique (h : entry.Describes palette s) (h' : entry.Describes palette s') :
    s = s' := by
  have hcolor : ∀ {text : Option Text} {c c' : Option Color},
      Option.Rel (fun text c => Color.parse palette text = .ok c) text c →
      Option.Rel (fun text c => Color.parse palette text = .ok c) text c' → c = c' := by
    intro text c c' hc hc'
    cases hc with
    | none =>
      cases hc'
      rfl
    | some hc =>
      cases hc' with
      | some hc' => rw [Except.ok.inj (hc.symm.trans hc')]
  have hadd : s.add = s'.add := by
    rw [← h.mask, ← h'.mask]
    congr 1
    apply BitVec.eq_of_getLsbD_eq
    intro i _
    rw [Bool.eq_iff_iff, h.bit, h'.bit]
  obtain ⟨fg, bg, add, sub⟩ := s
  obtain ⟨fg', bg', add', sub'⟩ := s'
  obtain rfl : fg = fg' := hcolor h.fg h'.fg
  obtain rfl : bg = bg' := hcolor h.bg h'.bg
  obtain rfl : add = add' := hadd
  obtain rfl : sub = sub' := h.sub.trans h'.sub.symm
  rfl

/-- Nothing is wrong with an entry that describes a style. -/
theorem Describes.not_malformed (h : entry.Describes palette s) : ¬ entry.Malformed palette := by
  have hcolor : ∀ {text : Text} {c : Option Color},
      Option.Rel (fun text c => Color.parse palette text = .ok c) (some text) c →
      ¬ ∃ fault, Color.parse palette text = .error fault := by
    rintro text c ⟨hc⟩ ⟨fault, hfault⟩
    cases hc.symm.trans hfault
  rintro (⟨text, ht | ht, hfault⟩ | ⟨name, hname, hunknown⟩)
  · exact hcolor (ht ▸ h.fg) hfault
  · exact hcolor (ht ▸ h.bg) hfault
  · exact hunknown (h.known name hname)

/-- **An entry is resolved to the style that it describes.** -/
theorem resolve_eq_ok : entry.resolve palette = .ok s ↔ entry.Describes palette s := by
  refine ⟨describes_of_resolve, ?_⟩
  intro h
  have hfirst := failsFirst_resolve palette entry
  rw [not_malformed_iff.mp h.not_malformed] at hfirst
  obtain ⟨s', hs'⟩ := hfirst
  rw [hs', (describes_of_resolve hs').unique h]

end ScopeEntry

/-! ### Themes -/

namespace ThemeDefinition

/-- The entry that a definition has for a scope is malformed. -/
def MalformedAt (d : ThemeDefinition) (scope : Text) : Prop :=
  ∃ entry, Record.find? scope d.scopes = some entry ∧ entry.Malformed d.palette

/-- A malformed scope comes first of all malformed ones in the order of enumeration. -/
def FirstMalformed (d : ThemeDefinition) (scope : Text) : Prop :=
  d.MalformedAt scope ∧ ∀ other, d.MalformedAt other → other ≠ scope →
    Record.Before (d.scopes.map Prod.fst) scope other

end ThemeDefinition

namespace Theme

variable {name scope : Text} {palette : List (Text × Text)} {es : List (Text × ScopeEntry)}
variable {styles styles' : OrderedMap Text Style} {fault : Fault} {d : ThemeDefinition} {t : Theme}

/-- Entries that can be resolved give each scope its style, and leave other scopes alone. -/
theorem get?_of_resolveAll (hnodup : (es.map Prod.fst).Nodup)
    (h : resolveAll name palette es styles = .ok styles') :
    (∀ scope ∉ es.map Prod.fst, styles'.get? scope = styles.get? scope) ∧
      ∀ e ∈ es, ∃ s, styles'.get? e.1 = some s ∧ e.2.Describes palette s := by
  induction es generalizing styles with
  | nil =>
    obtain rfl := Except.ok.inj h
    exact ⟨fun _ _ => rfl, nofun⟩
  | cons e rest ih =>
    obtain ⟨scope, entry⟩ := e
    obtain ⟨hnew, hrest⟩ := List.nodup_cons.mp hnodup
    rw [resolveAll] at h
    split at h
    · next s hs =>
      obtain ⟨hothers, hstyles⟩ := ih hrest h
      refine ⟨?_, List.forall_mem_cons.mpr ⟨⟨s, ?_, ScopeEntry.resolve_eq_ok.mp hs⟩, hstyles⟩⟩
      · intro other hother
        obtain ⟨hne, hother⟩ := not_or.mp (List.mem_cons.not.mp hother)
        rw [hothers other hother, OrderedMap.get?_insert, if_neg (Ne.symm hne)]
      · rw [hothers scope hnew, OrderedMap.get?_insert, if_pos rfl]
    · cases h

/-- Entries that cannot all be resolved have a first one that is malformed. -/
theorem exists_of_resolveAll_eq_error (h : resolveAll name palette es styles = .error fault) :
    ∃ before scope entry after cause, es = before ++ (scope, entry) :: after ∧
      (∀ e ∈ before, ¬ e.2.Malformed palette) ∧ (entry.faults palette).head? = some cause ∧
      fault = .theme (.inScope name scope cause) := by
  induction es generalizing styles with
  | nil => cases h
  | cons e rest ih =>
    obtain ⟨scope, entry⟩ := e
    rw [resolveAll] at h
    split at h
    · next s hs =>
      obtain ⟨before, scope', entry', after, cause, rfl, hbefore, hcause, hfault⟩ := ih h
      refine ⟨(scope, entry) :: before, scope', entry', after, cause, rfl, ?_, hcause, hfault⟩
      exact List.forall_mem_cons.mpr
        ⟨(ScopeEntry.resolve_eq_ok.mp hs).not_malformed, hbefore⟩
    · next cause hcause =>
      exact ⟨[], scope, entry, rest, cause, rfl, nofun, ScopeEntry.resolve_eq_error.mp hcause,
        (Except.error.inj h).symm⟩

/-- A definition that fails does so at the first malformed scope, for the first thing that is wrong
with its entry. -/
theorem exists_of_ofDefinition_eq_error (h : ofDefinition name d = .error fault) :
    ∃ scope entry cause, d.FirstMalformed scope ∧ Record.find? scope d.scopes = some entry ∧
      (entry.faults d.palette).head? = some cause ∧
      fault = .theme (.inScope name scope cause) := by
  have herror : resolveAll name d.palette (Record.entries d.scopes) OrderedMap.empty =
      .error fault := by
    unfold ofDefinition at h
    generalize resolveAll name d.palette (Record.entries d.scopes) OrderedMap.empty = result at h ⊢
    rcases result with e | styles
    · obtain rfl : e = fault := Except.error.inj h
      rfl
    · cases h
  obtain ⟨before, scope, entry, after, cause, hentries, hbefore, hcause, hfault⟩ :=
    exists_of_resolveAll_eq_error herror
  have hfind : Record.find? scope d.scopes = some entry := by
    rw [← Record.mem_entries, hentries]
    exact List.mem_append_right _ List.mem_cons_self
  have hmalformed : entry.Malformed d.palette := by
    by_contra hnot
    rw [ScopeEntry.not_malformed_iff.mp hnot] at hcause
    cases hcause
  refine ⟨scope, entry, cause, ⟨⟨entry, hfind, hmalformed⟩, ?_⟩, hfind, hcause, hfault⟩
  rintro other ⟨entry', hfind', hmalformed'⟩ hne
  -- the other scope is enumerated after this one
  have hmem := Record.mem_entries.mpr hfind'
  have horder := Record.pairwise_entries d.scopes
  rw [hentries] at hmem horder
  rw [List.map_append, List.map_cons, List.pairwise_append, List.pairwise_cons] at horder
  rcases List.mem_append.mp hmem with hmem | hmem
  · exact absurd hmalformed' (hbefore _ hmem)
  · rcases List.mem_cons.mp hmem with heq | hmem
    · exact absurd (congrArg Prod.fst heq) hne
    · exact horder.2.1.1 other (List.mem_map_of_mem hmem)

/-- A definition that gives a theme gives each of its scopes the style that its entry describes. -/
theorem rel_style?_of_ofDefinition (h : ofDefinition name d = .ok t) :
    t.name = name ∧ ∀ scope, Option.Rel (ScopeEntry.Describes d.palette)
      (Record.find? scope d.scopes) (t.style? scope) := by
  unfold ofDefinition at h
  rcases hstyles : resolveAll name d.palette (Record.entries d.scopes) OrderedMap.empty
    with e | styles
  · rw [hstyles] at h
    cases h
  · rw [hstyles] at h
    obtain rfl := Except.ok.inj h
    refine ⟨rfl, ?_⟩
    intro scope
    show Option.Rel _ _ (styles.get? scope)
    obtain ⟨hothers, hfound⟩ := get?_of_resolveAll (Record.nodup_entries _) hstyles
    rcases hentry : Record.find? scope d.scopes with - | entry
    · have hnot : scope ∉ (Record.entries d.scopes).map Prod.fst := by
        rw [Record.mem_names_entries, ← Record.isSome_find?, hentry]
        exact Bool.false_ne_true
      rw [hothers scope hnot, OrderedMap.get?_empty]
      exact .none
    · obtain ⟨s, hs, hdescribes⟩ := hfound _ (Record.mem_entries.mpr hentry)
      rw [hs]
      exact .some hdescribes

/-- A style of a theme is the one that the entry of its scope describes. -/
theorem exists_entry_of_style? {s : Style} (h : ofDefinition name d = .ok t)
    (hs : t.style? scope = some s) :
    ∃ entry, Record.find? scope d.scopes = some entry ∧ entry.Describes d.palette s := by
  have hrel := (rel_style?_of_ofDefinition h).2 scope
  rw [hs] at hrel
  generalize Record.find? scope d.scopes = entry? at hrel ⊢
  cases hrel with
  | some hdescribes => exact ⟨_, rfl, hdescribes⟩

/-- **A theme is made exactly as its definition says.**  It cannot be made if a scope is malformed,
and the fault names the first such scope in the order of enumeration and the first thing that is
wrong with its entry.  Otherwise it has a style for the scopes of the definition and for no others,
the one that the entry of the scope describes. -/
theorem ofDefinition_exact (name : Text) (d : ThemeDefinition) :
    ((∃ fault, ofDefinition name d = .error fault) ↔ ∃ scope, d.MalformedAt scope) ∧
    (∀ fault, ofDefinition name d = .error fault →
      ∃ scope entry cause, d.FirstMalformed scope ∧ Record.find? scope d.scopes = some entry ∧
        (entry.faults d.palette).head? = some cause ∧
        fault = .theme (.inScope name scope cause)) ∧
    ∀ t, ofDefinition name d = .ok t → t.name = name ∧ ∀ scope,
      ((t.style? scope).isSome ↔ scope ∈ d.scopes.map Prod.fst) ∧
      (∀ s, t.style? scope = some s → t.style scope = .ok s ∧
        ∃ entry, Record.find? scope d.scopes = some entry ∧ entry.Describes d.palette s) ∧
      (t.style? scope = none → t.style scope = .error (.missingStyle scope (some name))) := by
  refine ⟨⟨?fails, ?malformed⟩, fun fault => exists_of_ofDefinition_eq_error, ?made⟩
  case fails =>
    rintro ⟨fault, h⟩
    obtain ⟨scope, entry, cause, ⟨hscope, -⟩, -⟩ := exists_of_ofDefinition_eq_error h
    exact ⟨scope, hscope⟩
  case malformed =>
    rintro ⟨scope, entry, hfind, hmalformed⟩
    rcases ht : ofDefinition name d with fault | t
    · exact ⟨fault, rfl⟩
    · have hrel := (rel_style?_of_ofDefinition ht).2 scope
      rw [hfind] at hrel
      generalize t.style? scope = s? at hrel
      cases hrel with
      | some hdescribes => exact absurd hmalformed hdescribes.not_malformed
  case made =>
    intro t ht
    obtain ⟨hname, hrel⟩ := rel_style?_of_ofDefinition ht
    refine ⟨hname, fun scope => ⟨?_, ?_, ?_⟩⟩
    · rw [← Record.isSome_find?]
      have hrel := hrel scope
      generalize Record.find? scope d.scopes = entry? at hrel ⊢
      generalize t.style? scope = s? at hrel ⊢
      cases hrel with
      | none => exact Iff.rfl
      | some _ => exact Iff.rfl
    · intro s hs
      exact ⟨by rw [style, hs], exists_entry_of_style? ht hs⟩
    · intro hnone
      rw [style, hnone, hname]

/-- Three scopes with an unknown color or modifier; the first one that was written is enumerated
last, since the names of the others are array indices. -/
def indexedDefinition : ThemeDefinition where
  palette := [(Text.ofString "accent", Text.ofString " #0A0b0C ")]
  scopes :=
    [(Text.ofString "error", .color (Text.ofString "toString")),
     (Text.ofString "10", .color (Text.ofString "#12345")),
     (Text.ofString "9", .parts (some (Text.ofString "accent")) none
      [Text.ofString "bold", Text.ofString "blink"])]

/-- The same definition with one well-formed entry, which lists a modifier twice. -/
def mendedDefinition : ThemeDefinition :=
  { indexedDefinition with
    scopes := [(Text.ofString "9", .parts (some (Text.ofString "accent")) none
      [Text.ofString "italic", Text.ofString "bold", Text.ofString "italic"])] }

/-- The fault names the scope with the smallest index; once mended, the scope has a style with the
color from the palette and two modifiers, and no other scope has one. -/
theorem ofDefinition_exact_indexed :
    let name := Text.ofString "mine"
    ofDefinition name indexedDefinition =
      .error (.theme (.inScope name (Text.ofString "9")
        (.unknownModifier (Text.ofString "blink")))) ∧
    indexedDefinition.FirstMalformed (Text.ofString "9") ∧
    ∃ t, ofDefinition name mendedDefinition = .ok t ∧
      t.style (Text.ofString "9") = .ok { fg := some (.rgb 10 11 12), add := 5 } ∧
      t.style (Text.ofString "10") = .error (.missingStyle (Text.ofString "10") (some name)) := by
  intro name
  have hbad : ofDefinition name indexedDefinition =
      .error (.theme (.inScope name (Text.ofString "9")
        (.unknownModifier (Text.ofString "blink")))) := by
    decide +kernel
  obtain ⟨-, hfirst, -⟩ := ofDefinition_exact name indexedDefinition
  obtain ⟨scope, _, _, hscope, -, -, hfault⟩ := hfirst _ hbad
  obtain ⟨-, rfl, -⟩ := ThemeFault.inScope.inj (Fault.theme.inj hfault)
  obtain ⟨t, ht⟩ : ∃ t, ofDefinition name mendedDefinition = .ok t :=
    exists_eq_ok (by decide +kernel)
  obtain ⟨-, -, hmade⟩ := ofDefinition_exact name mendedDefinition
  obtain ⟨-, hstyles⟩ := hmade t ht
  refine ⟨hbad, hscope, t, ht, ?_, ?_⟩
  · obtain ⟨hdefined, hstyle, -⟩ := hstyles (Text.ofString "9")
    obtain ⟨s, hs⟩ := Option.isSome_iff_exists.mp (hdefined.mpr (by decide +kernel))
    obtain ⟨hget, entry, hfind, hdescribes⟩ := hstyle s hs
    obtain rfl := Option.some.inj (hfind.symm.trans
      (by decide +kernel : Record.find? (Text.ofString "9") mendedDefinition.scopes =
        some (.parts (some (Text.ofString "accent")) none
          [Text.ofString "italic", Text.ofString "bold", Text.ofString "italic"])))
    have hresolved := congrArg Except.toOption (ScopeEntry.resolve_eq_ok.mpr hdescribes)
    have hs : some s = some { fg := some (.rgb 10 11 12), add := 5 } :=
      hresolved.symm.trans (by decide +kernel)
    rw [hget, Option.some.inj hs]
  · obtain ⟨hdefined, -, hmissing⟩ := hstyles (Text.ofString "10")
    refine hmissing (Option.not_isSome_iff_eq_none.mp (hdefined.not.mpr ?_))
    decide +kernel

end Theme

end EditorGutter
