import EditorGutter.Proofs.Gutter.Failures
import EditorGutter.Proofs.Gutter.Marks
import EditorGutter.Proofs.Text.Spelling

/-!
What becomes of a configuration that is accepted.

Widths from outside are checked twice, when a configuration is resolved and when its columns are
added.  The second check passes whatever has passed the first (`Columns.ofConfig_eq`), so a value
that is not refused for one of its entries (`Config.blamesEntry_resolve`) becomes columns, one for
each entry, and these can be rendered.  Written out in full, a configuration is accepted for itself
and nothing is reported (`Config.resolve_toValue`, `Config.resolveRecords_toValue`).  The main
result is `Config.resolve_cases`.
-/
namespace EditorGutter

open Text

/-! ### Values that are refused -/

namespace Config

/-- The keys of the entries that a configuration can be refused for. -/
inductive IsEntryKey : Text → Prop
  | root : IsEntryKey rootKey
  | numbering : IsEntryKey numberingKey
  | columns : IsEntryKey columnsKey
  | column (i : Nat) : IsEntryKey (columnKey i)
  | kind (i : Nat) : IsEntryKey (columnMemberKey i kindKey)
  | width (i : Nat) : IsEntryKey (columnMemberKey i widthKey)

/-- A result that can only fail for an entry of the configuration, which it names. -/
def BlamesEntry {α : Type} (x : Except Fault α) : Prop :=
  ∀ fault, x = .error fault → ∃ key cause, IsEntryKey key ∧ fault = .config key cause

section

variable {α β : Type}

theorem blamesEntry_ok (a : α) : BlamesEntry (.ok a) := nofun

theorem IsEntryKey.blamesEntry {key : Text} (h : IsEntryKey key) (cause : ConfigFault) :
    BlamesEntry (.error (.config key cause) : Except Fault α) := by
  rintro fault ⟨⟩
  exact ⟨key, cause, h, rfl⟩

theorem BlamesEntry.bind {x : Except Fault α} {next : α → Except Fault β} (h : BlamesEntry x)
    (hnext : ∀ a, BlamesEntry (next a)) : BlamesEntry (x.bind next) := by
  rcases x with fault | a
  · obtain ⟨key, cause, hkey, rfl⟩ := h fault rfl
    exact hkey.blamesEntry cause
  · exact hnext a

end

theorem blamesEntry_readNumbering (v : Value) : BlamesEntry (readNumbering v) := by
  unfold readNumbering
  split
  · split_ifs
    · exact blamesEntry_ok _
    · exact blamesEntry_ok _
    · exact IsEntryKey.numbering.blamesEntry _
  · exact IsEntryKey.numbering.blamesEntry _

theorem blamesEntry_readKind (i : Nat) (v : Option Value) : BlamesEntry (readKind i v) := by
  unfold readKind
  split
  · split
    · exact blamesEntry_ok _
    · exact (IsEntryKey.kind i).blamesEntry _
  · exact (IsEntryKey.kind i).blamesEntry _

theorem blamesEntry_readWidth (i : Nat) (v : Option Value) : BlamesEntry (readWidth i v) := by
  unfold readWidth
  split
  · split
    · exact blamesEntry_ok _
    · exact (IsEntryKey.width i).blamesEntry _
  · exact (IsEntryKey.width i).blamesEntry _

theorem blamesEntry_readColumn (i : Nat) (v : Value) : BlamesEntry (readColumn i v) := by
  unfold readColumn
  split
  · refine (blamesEntry_readKind i _).bind fun kind => ?_
    exact (blamesEntry_readWidth i _).bind fun width => blamesEntry_ok _
  · exact (IsEntryKey.column i).blamesEntry _

theorem blamesEntry_readColumnsFrom (i : Nat) (items : List Value) :
    BlamesEntry (readColumnsFrom i items) := by
  induction items generalizing i with
  | nil => exact blamesEntry_ok _
  | cons v rest ih =>
    refine (blamesEntry_readColumn i v).bind fun column => ?_
    exact (ih (i + 1)).bind fun columns => blamesEntry_ok _

theorem blamesEntry_readColumns (v : Value) : BlamesEntry (readColumns v) := by
  unfold readColumns
  split
  · exact blamesEntry_readColumnsFrom 0 _
  · exact IsEntryKey.columns.blamesEntry _

theorem blamesEntry_readMember {α : Type} {read : Value → Except Fault α}
    (h : ∀ v, BlamesEntry (read v)) (fallback : α) (key : Text) (members : List (Text × Value)) :
    BlamesEntry (readMember read fallback key members) := by
  unfold readMember
  split
  · exact h _
  · exact blamesEntry_ok _

/-- A value of any shape is refused, if it is, for one of its entries. -/
theorem blamesEntry_resolve (raw : Option Value) : BlamesEntry (resolve raw) := by
  unfold resolve
  split
  · exact blamesEntry_ok _
  · exact blamesEntry_ok _
  · refine (blamesEntry_readMember blamesEntry_readNumbering _ _ _).bind fun numbering => ?_
    refine (blamesEntry_readMember blamesEntry_readColumns _ _ _).bind fun columns => ?_
    exact blamesEntry_ok _
  · exact IsEntryKey.root.blamesEntry _

end Config

/-! ### Configurations written out -/

theorem GutterKind.ofText?_text (kind : GutterKind) : ofText? kind.text = some kind := by
  cases kind <;> decide

theorem GutterKind.ofText?_eq_some {t : Text} {kind : GutterKind} :
    ofText? t = some kind ↔ kind.text = t :=
  find?_spelled_eq_some ofText?_text

namespace Config

theorem readNumbering_name (mode : NumberingMode) :
    readNumbering (.text (ofString mode.name)) = .ok mode := by
  cases mode <;> decide

theorem readKind_text (i : Nat) (kind : GutterKind) :
    readKind i (some (.text kind.text)) = .ok kind := by
  simp only [readKind, GutterKind.ofText?_text]

theorem readWidth_natCast (i : Nat) {n : Nat} (h : 0 < n) :
    readWidth i (some (.number n)) = .ok ⟨n, h⟩ := by
  simp only [readWidth, Number.toPositive?_natCast h]

/-- The value that describes a column is read as that column. -/
theorem readColumn_columnToValue (i : Nat) (c : ColumnConfig) :
    readColumn i (columnToValue c) = .ok c := by
  have hnames : (([(kindKey, .text c.kind.text), (widthKey, .number c.width)] :
      List (Text × Value)).map Prod.fst).Nodup := show [kindKey, widthKey].Nodup by decide
  -- with distinct names each member is found where it was written
  have hkind := Record.find?_eq_some hnames List.mem_cons_self
  have hwidth := Record.find?_eq_some hnames (List.mem_cons_of_mem _ List.mem_cons_self)
  show (readKind i (Record.find? kindKey _)).bind (fun kind =>
    (readWidth i (Record.find? widthKey _)).bind fun width =>
      .ok ⟨kind, width.1, width.2⟩) = Except.ok c
  rw [hkind, hwidth, readKind_text, readWidth_natCast i c.width_pos]
  rfl

theorem readColumnsFrom_map (i : Nat) (columns : List ColumnConfig) :
    readColumnsFrom i (columns.map columnToValue) = .ok columns := by
  induction columns generalizing i with
  | nil => rfl
  | cons c rest ih =>
    show (readColumn i (columnToValue c)).bind (fun column =>
      (readColumnsFrom (i + 1) (rest.map columnToValue)).bind fun columns =>
        .ok (column :: columns)) = _
    rw [readColumn_columnToValue, ih]
    rfl

section

variable (config : Config)

/-- The members of a configuration that is written out. -/
def members : List (Text × Value) :=
  [(numberingKey, .text (ofString config.numbering.name)),
    (columnsKey, .array (config.columns.map columnToValue))]

theorem names_members : config.members.map Prod.fst = [numberingKey, columnsKey] := rfl

theorem nodup_members : (config.members.map Prod.fst).Nodup := by
  rw [names_members]
  decide

/-- **A configuration is accepted for itself.** -/
theorem resolve_toValue : resolve (some config.toValue) = .ok config := by
  have hnumbering := Record.find?_eq_some config.nodup_members List.mem_cons_self
  have hcolumns :=
    Record.find?_eq_some config.nodup_members (List.mem_cons_of_mem _ List.mem_cons_self)
  show (readMember readNumbering default.numbering numberingKey config.members).bind
    (fun numbering =>
      (readMember readColumns default.columns columnsKey config.members).bind fun columns =>
        .ok ⟨numbering, columns⟩) = Except.ok config
  unfold readMember
  rw [hnumbering, hcolumns]
  -- both members are there, so neither default is taken
  show (readNumbering _).bind (fun numbering => (readColumnsFrom 0 _).bind fun columns =>
    .ok ⟨numbering, columns⟩) = Except.ok config
  rw [readNumbering_name, readColumnsFrom_map]
  rfl

/-- Nothing is reported about a configuration that is written out. -/
theorem resolveRecords_toValue : resolveRecords (some config.toValue) = [] := by
  -- no name is an array index, so the members are enumerated as they are written
  have hnames : ∀ m ∈ config.members, Record.arrayIndex? m.1 = none := by
    intro m hm
    rcases List.mem_pair.mp hm with rfl | rfl
    · exact (by decide : Record.arrayIndex? numberingKey = none)
    · exact (by decide : Record.arrayIndex? columnsKey = none)
  show (((Record.entries config.members).map Prod.fst).filter fun key =>
    key ≠ numberingKey ∧ key ≠ columnsKey).map _ = []
  rw [Record.entries_eq config.nodup_members hnames, names_members]
  rfl

end

end Config

/-! ### Columns -/

/-- A column is the one that an entry of a configuration asks for: it has the name and the gutter
of its kind, and its width. -/
def Column.Meets (entry : ColumnConfig) (c : Column) : Prop :=
  c.name = entry.kind.text ∧ c.gutter = .builtin entry.kind ∧ c.width = entry.width

namespace Columns

/-- The column that an entry of a configuration asks for. -/
def ofEntry (entry : ColumnConfig) : Column :=
  ⟨entry.kind.text, .builtin entry.kind, entry.width, entry.width_pos⟩

theorem addBuiltins_eq (cs : Columns) (entries : List ColumnConfig) :
    cs.addBuiltins (entries.map fun c => (c.kind, (c.width : Number))) =
      .ok ⟨cs.columns ++ entries.map ofEntry⟩ := by
  -- on the entries, each of which is added behind the columns that there are
  induction entries generalizing cs with
  | nil =>
    rw [List.map_nil, List.map_nil, List.append_nil]
    rfl
  | cons entry rest ih =>
    have hadd : cs.add entry.kind.text (.builtin entry.kind) (entry.width : Number) =
        .ok ⟨cs.columns ++ [ofEntry entry]⟩ := by
      unfold add
      rw [Number.toPositive?_natCast entry.width_pos]
      rfl
    show (cs.add entry.kind.text (.builtin entry.kind) (entry.width : Number)).bind
      (fun cs => cs.addBuiltins (rest.map fun c => (c.kind, (c.width : Number)))) = _
    rw [hadd]
    refine (ih _).trans ?_
    rw [List.append_assoc]
    rfl

/-- Every configuration has its columns, one for each entry. -/
theorem ofConfig_eq (config : Config) :
    ofConfig config = .ok ⟨config.columns.map ofEntry⟩ :=
  addBuiltins_eq {} config.columns

theorem forall₂_meets (entries : List ColumnConfig) :
    List.Forall₂ Column.Meets entries (entries.map ofEntry) := by
  rw [List.forall₂_map_right_iff, List.forall₂_same]
  exact fun entry _ => ⟨rfl, rfl, rfl⟩

end Columns

/-! ### Rendering -/

namespace GutterKind

/-- Every scope that a gutter of the editor requires. -/
def allScopes : List Scope := [.lineNumber, .error, .warning, .info, .hint]

theorem requiredScopes_subset (kind : GutterKind) : kind.requiredScopes ⊆ allScopes := by
  cases kind <;> decide

/-- With all its scopes and a file, no gutter has a fault. -/
theorem fault?_eq_none {theme : Theme} (h : theme.Has allScopes) (kind : GutterKind)
    (path : Text) : kind.fault? theme (some path) = none := by
  have hfind : theme.firstMissing? kind.requiredScopes = none := by
    apply List.find?_eq_none.mpr
    intro scope hscope
    rw [Option.isNone_iff_eq_none]
    exact Option.ne_none_iff_isSome.mpr (h scope (kind.requiredScopes_subset hscope))
  simp [fault?, Theme.lookupFault?, pathFault?, hfind]

end GutterKind

/-- The columns of a configuration can be drawn. -/
theorem Columns.exists_render_ofEntry (entries : List ColumnConfig) {scene : Scene} {path : Text}
    (hscopes : scene.theme.Has GutterKind.allScopes) (hpath : scene.doc.path = some path)
    (hprimary : scene.doc.PrimaryByCount) :
    ∃ frame, render ⟨entries.map ofEntry⟩ scene = .ok frame ∧
      frame.rows.map Row.line = scene.visibleLines := by
  have hbuiltin : Builtin ⟨entries.map ofEntry⟩ := by
    intro c hc
    obtain ⟨entry, -, rfl⟩ := List.mem_map.mp hc
    exact ⟨entry.kind, rfl⟩
  have hfault : ∀ c ∈ entries.map ofEntry, c.fault? scene.theme scene.doc.path = none := by
    intro c hc
    obtain ⟨entry, -, rfl⟩ := List.mem_map.mp hc
    rw [hpath]
    exact entry.kind.fault?_eq_none hscopes path
  obtain ⟨frame, hframe, hrows, -⟩ := exists_render hbuiltin hprimary hfault
  exact ⟨frame, hframe, hrows⟩

/-! ### Accepted and refused -/

namespace Config

/-- **A configuration that is accepted has its columns, and they can be drawn.**  A value is
refused for one of its entries, or it becomes a configuration with one column for each entry, in
order, which has the name and the gutter of its kind and its width.  With a theme that has the
scopes that gutters require, and a document that has a file and primary ranges, there is a frame of
these columns through any view, with a row for each visible line.  And every configuration is
accepted for itself, with nothing to report. -/
theorem resolve_cases (raw : Option Value) :
    ((∃ key cause, IsEntryKey key ∧ resolve raw = .error (.config key cause)) ∨
      ∃ config cs, resolve raw = .ok config ∧ Columns.ofConfig config = .ok cs ∧
        List.Forall₂ Column.Meets config.columns cs.columns ∧
        ∀ (scene : Scene) path, scene.theme.Has GutterKind.allScopes →
          scene.doc.path = some path → scene.doc.PrimaryByCount →
          ∃ frame, cs.render scene = .ok frame ∧
            frame.rows.map Row.line = scene.visibleLines) ∧
    ∀ config : Config, resolve (some config.toValue) = .ok config ∧
      resolveRecords (some config.toValue) = [] := by
  refine ⟨?_, fun config => ⟨config.resolve_toValue, config.resolveRecords_toValue⟩⟩
  rcases hraw : resolve raw with fault | config
  · obtain ⟨key, cause, hkey, rfl⟩ := blamesEntry_resolve raw fault hraw
    exact .inl ⟨key, cause, hkey, rfl⟩
  · refine .inr ⟨config, _, rfl, Columns.ofConfig_eq config, Columns.forall₂_meets _, ?_⟩
    intro scene path hscopes hpath hprimary
    exact Columns.exists_render_ofEntry _ hscopes hpath hprimary

/-- Two columns with their members in either order, and a member that means nothing. -/
def reordered : Value :=
  .object
    [(columnsKey, .array
        [.object [(kindKey, .text (ofString "breakpoints")), (widthKey, .number 2)],
          .object [(widthKey, .number 4), (kindKey, .text (ofString "line-numbers"))]]),
      (ofString "theme", .null), (numberingKey, .text (ofString "relative"))]

/-- The member is reported once.  What is made of the rest is drawn in a document with a file, and
accepted again without a word. -/
theorem resolve_cases_reordered :
    ∃ config cs frame, resolve (some reordered) = .ok config ∧
      config = ⟨.relative, [⟨.breakpoints, 2, Nat.two_pos⟩, ⟨.lineNumbers, 4, by decide⟩]⟩ ∧
      (resolveRecords (some reordered)).length = 1 ∧ Columns.ofConfig config = .ok cs ∧
      cs.render (Columns.freshScene (some Sample.path)) = .ok frame ∧
      frame.rows.length = 7 ∧ resolve (some config.toValue) = .ok config ∧
      resolveRecords (some config.toValue) = [] := by
  have hresolve : resolve (some reordered) =
      .ok ⟨.relative, [⟨.breakpoints, 2, Nat.two_pos⟩, ⟨.lineNumbers, 4, by decide⟩]⟩ := by
    decide +kernel
  obtain ⟨hcases, hagain⟩ := resolve_cases (some reordered)
  rcases hcases with ⟨key, cause, -, herror⟩ | ⟨config, cs, hok, hcs, -, hrender⟩
  · cases hresolve.symm.trans herror
  · obtain rfl := Except.ok.inj (hresolve.symm.trans hok)
    have hscopes : (Columns.freshScene (some Sample.path)).theme.Has GutterKind.allScopes := by
      unfold Theme.Has
      decide +kernel
    obtain ⟨frame, hframe, hrows⟩ :=
      hrender (Columns.freshScene (some Sample.path)) Sample.path hscopes rfl fun _ => ⟨0, rfl⟩
    refine ⟨_, cs, frame, hok, rfl, by decide +kernel, hcs, hframe, ?_, hagain _⟩
    rw [← List.length_map (f := Row.line), hrows]
    decide +kernel

end Config

end EditorGutter
