import EditorGutter.Proofs.Config.Resolution
import EditorGutter.Proofs.Value.Enumeration

/-!
Which values are accepted as configurations, and what the others are refused for.

Both are told from the value alone: which configuration it describes (`Config.Describes`), and all
that is wrong with it (`Config.Offence`), entry by entry and each without regard to the others.
Reading is then judged against the two: a value is read as what it describes, or it is blamed for
the first of its offences (`Config.Judged`).  Judgements are chained as readings are
(`Config.Judged.bind`), as long as the offences of the first all come before those of the next, and
this is where the order of the entries is decided.  The main result is `Config.resolve_blames`.
-/
namespace EditorGutter

open Text

namespace Config

/-! ### Entries and their order -/

/-- What a configuration can be refused for. -/
inductive Entry where
  | root
  | numbering
  | columns
  | column (i : Nat)
  | kind (i : Nat)
  | width (i : Nat)
  deriving DecidableEq

namespace Entry

/-- The key that names an entry in a fault, letter by letter. -/
def key : Entry → Text
  | .root => ofString "(root)"
  | .numbering => ofString "lineNumber"
  | .columns => ofString "gutters"
  | .column i => ofString ("gutters[" ++ i.repr ++ "]")
  | .kind i => ofString ("gutters[" ++ i.repr ++ "].type")
  | .width i => ofString ("gutters[" ++ i.repr ++ "].width")

theorem ofString_indexed (i : Nat) (rest : String) :
    ofString ("gutters[" ++ i.repr ++ rest) =
      columnsKey ++ ofString "[" ++ ofNat i ++ ofString rest := by
  rw [ofString_append, ofString_append, ofString_repr]
  rfl

theorem columnMemberKey_eq (i : Nat) (member : Text) :
    columnMemberKey i member =
      columnsKey ++ ofString "[" ++ ofNat i ++ (ofString "]." ++ member) := by
  rw [columnMemberKey, columnKey, List.append_assoc, List.append_assoc _ (ofString "]")]
  rfl

theorem key_column (i : Nat) : (column i).key = columnKey i := ofString_indexed i "]"

theorem key_kind (i : Nat) : (kind i).key = columnMemberKey i kindKey := by
  rw [columnMemberKey_eq]
  exact ofString_indexed i "].type"

theorem key_width (i : Nat) : (width i).key = columnMemberKey i widthKey := by
  rw [columnMemberKey_eq]
  exact ofString_indexed i "].width"

/-- The place of an entry in the order of blame: column after column comes last, and each column
comes before its kind and this before its width. -/
def rank : Entry → Nat
  | .root => 0
  | .numbering => 1
  | .columns => 2
  | .column i => 3 * i + 3
  | .kind i => 3 * i + 4
  | .width i => 3 * i + 5

end Entry

/-! ### What a value describes -/

/-- A value is the name of a numbering mode. -/
def WritesNumbering (v : Value) (mode : NumberingMode) : Prop :=
  v = .text (ofString mode.name)

/-- A value is an object with the kind and the width of a column. -/
def WritesColumn (v : Value) (c : ColumnConfig) : Prop :=
  ∃ members, v = .object members ∧ Record.find? kindKey members = some (.text c.kind.text) ∧
    Record.find? widthKey members = some (.number c.width)

/-- A value is an array of columns. -/
def WritesColumns (v : Value) (columns : List ColumnConfig) : Prop :=
  ∃ items, v = .array items ∧ List.Forall₂ WritesColumn items columns

/-- What a member says where it is present; one that is absent says the default. -/
def Says {α : Type} (Writes : Value → α → Prop) (fallback : α) : Option Value → α → Prop
  | none, a => a = fallback
  | some v, a => Writes v a

/-- What is handed over describes a configuration. -/
inductive Describes : Option Value → Config → Prop
  | absent : Describes none default
  | null : Describes (some .null) default
  | object {members : List (Text × Value)} {config : Config}
      (hnumbering : Says WritesNumbering default.numbering
        (Record.find? numberingKey members) config.numbering)
      (hcolumns : Says WritesColumns default.columns
        (Record.find? columnsKey members) config.columns) :
      Describes (some (.object members)) config

/-! ### What is wrong with a value -/

/-- What is wrong with an entry without parts: that nothing is written which it could mean. -/
def Unwritten {α : Type} (Writes : α → Prop) (e : Entry) (cause : ConfigFault) (e' : Entry)
    (cause' : ConfigFault) : Prop :=
  (∀ a, ¬ Writes a) ∧ e' = e ∧ cause' = cause

/-- What is wrong with a value as a numbering mode. -/
def NumberingOffence (v : Value) : Entry → ConfigFault → Prop :=
  Unwritten (WritesNumbering v) .numbering (.expectedNumbering v.compact)

/-- What is wrong with a member, if it is there, as the kind of the column at an index. -/
def KindOffence (i : Nat) (v : Option Value) : Entry → ConfigFault → Prop :=
  Unwritten (fun kind : GutterKind => v = some (.text kind.text)) (.kind i)
    (.expectedGutter (GutterKind.all.map (·.text)))

/-- What is wrong with a member, if it is there, as the width of the column at an index. -/
def WidthOffence (i : Nat) (v : Option Value) : Entry → ConfigFault → Prop :=
  Unwritten (fun n : { n : Nat // 0 < n } => v = some (.number n.val)) (.width i) .expectedPositive

/-- What is wrong with a value as the column at an index. -/
inductive ColumnOffence (i : Nat) : Value → Entry → ConfigFault → Prop
  | column {v : Value} (h : ∀ members, v ≠ .object members) :
      ColumnOffence i v (.column i) .expectedColumn
  | kind {members : List (Text × Value)} {e : Entry} {cause : ConfigFault}
      (h : KindOffence i (Record.find? kindKey members) e cause) :
      ColumnOffence i (.object members) e cause
  | width {members : List (Text × Value)} {e : Entry} {cause : ConfigFault}
      (h : WidthOffence i (Record.find? widthKey members) e cause) :
      ColumnOffence i (.object members) e cause

/-- What is wrong with a value as the columns. -/
inductive ColumnsOffence : Value → Entry → ConfigFault → Prop
  | columns {v : Value} (h : ∀ items, v ≠ .array items) :
      ColumnsOffence v .columns .expectedArray
  | item {items : List Value} {i : Nat} {v : Value} {e : Entry} {cause : ConfigFault}
      (hv : items[i]? = some v) (h : ColumnOffence i v e cause) :
      ColumnsOffence (.array items) e cause

/-- What is wrong with a value as a configuration. -/
inductive Offence : Option Value → Entry → ConfigFault → Prop
  | root {v : Value} (hnull : v ≠ .null) (h : ∀ members, v ≠ .object members) :
      Offence (some v) .root .expectedObject
  | numbering {members : List (Text × Value)} {v : Value} {e : Entry} {cause : ConfigFault}
      (hv : Record.find? numberingKey members = some v) (h : NumberingOffence v e cause) :
      Offence (some (.object members)) e cause
  | columns {members : List (Text × Value)} {v : Value} {e : Entry} {cause : ConfigFault}
      (hv : Record.find? columnsKey members = some v) (h : ColumnsOffence v e cause) :
      Offence (some (.object members)) e cause

/-- Of some offences the one that comes first. -/
def IsFirst (O : Entry → ConfigFault → Prop) (e : Entry) (cause : ConfigFault) : Prop :=
  O e cause ∧ ∀ e' cause', O e' cause' → e.rank < e'.rank ∨ e' = e ∧ cause' = cause

/-! ### Judgements -/

/-- A result is right for what is described and what is wrong: it is the one thing described, and
nothing is wrong, or nothing is described, and it is the fault of the first offence. -/
inductive Judged {α : Type} (W : α → Prop) (O : Entry → ConfigFault → Prop) :
    Except Fault α → Prop
  | accepted {a : α} (hW : ∀ a', W a' ↔ a' = a) (hO : ∀ e cause, ¬ O e cause) :
      Judged W O (.ok a)
  | blamed {e : Entry} {cause : ConfigFault} (hW : ∀ a, ¬ W a) (hO : IsFirst O e cause) :
      Judged W O (.error (.config e.key cause))

namespace Judged

variable {α β : Type} {W W' : α → Prop} {V : α → β → Prop}
variable {O O' : Entry → ConfigFault → Prop} {x : Except Fault α}

theorem congr (h : Judged W O x) (hW : ∀ a, W a ↔ W' a)
    (hO : ∀ e cause, O e cause ↔ O' e cause) : Judged W' O' x := by
  have hW' : W = W' := funext fun a => propext (hW a)
  have hO' : O = O' := funext fun e => funext fun cause => propext (hO e cause)
  exact hW' ▸ hO' ▸ h

/-- The judgement where only one thing is wrong. -/
theorem of_only {e : Entry} {cause : ConfigFault} (hW : ∀ a, ¬ W a) (he : O e cause)
    (honly : ∀ e' cause', O e' cause' → e' = e ∧ cause' = cause) :
    Judged W O (.error (.config e.key cause)) :=
  .blamed hW ⟨he, fun e' cause' h => .inr (honly e' cause' h)⟩

/-- The judgement of an entry without parts. -/
theorem of_entry {e : Entry} {cause : ConfigFault} (hok : ∀ a, W a → x = .ok a)
    (herror : (∀ a, ¬ W a) → x = .error (.config e.key cause)) :
    Judged W (Unwritten W e cause) x := by
  by_cases h : ∃ a, W a
  · obtain ⟨a, ha⟩ := h
    rw [hok a ha]
    refine .accepted (fun a' => ⟨fun ha' => ?_, fun heq => heq ▸ ha⟩) fun e' cause' h => h.1 a ha
    exact Except.ok.inj ((hok a' ha').symm.trans (hok a ha))
  · rw [herror (not_exists.mp h)]
    exact .of_only (not_exists.mp h) ⟨not_exists.mp h, rfl, rfl⟩ fun e' cause' h' => h'.2

/-- A chain of two readings; the offences of the first all come before those of the second. -/
theorem bind {next : α → Except Fault β} (h : Judged W O x)
    (hnext : ∀ a, Judged (V a) O' (next a))
    (hbefore : ∀ e cause e' cause', O e cause → O' e' cause' → e.rank < e'.rank) :
    Judged (fun b => ∃ a, W a ∧ V a b) (fun e cause => O e cause ∨ O' e cause) (x.bind next) := by
  cases h with
  | @blamed e cause hW hO =>
    refine .blamed (fun b ⟨a, ha, _⟩ => hW a ha) ⟨.inl hO.1, ?_⟩
    rintro e' cause' (h' | h')
    · exact hO.2 e' cause' h'
    · exact .inl (hbefore e cause e' cause' hO.1 h')
  | @accepted a hW hO =>
    -- only the second reading is left
    refine (hnext a).congr (fun b => ?_) fun e cause => ?_
    · constructor
      · intro hb
        exact ⟨a, (hW a).mpr rfl, hb⟩
      · rintro ⟨a', ha', hb⟩
        exact (hW a').mp ha' ▸ hb
    · constructor
      · exact .inr
      · rintro (h' | h')
        · exact absurd h' (hO e cause)
        · exact h'

theorem map (h : Judged W O x) (f : α → β) :
    Judged (fun b => ∃ a, W a ∧ b = f a) O (x.bind fun a => .ok (f a)) := by
  have hlast : ∀ a, Judged (fun b => b = f a) (fun _ _ => False) (.ok (f a)) :=
    fun a => .accepted (fun _ => Iff.rfl) fun _ _ => id
  exact (h.bind hlast fun _ _ _ _ _ h' => h'.elim).congr (fun _ => Iff.rfl)
    fun _ _ => iff_of_eq (or_false _)

theorem eq_ok_iff (h : Judged W O x) (a : α) : x = .ok a ↔ W a := by
  cases h with
  | accepted hW hO =>
    rw [hW, Except.ok.injEq]
    exact eq_comm
  | blamed hW hO => exact ⟨nofun, fun ha => absurd ha (hW a)⟩

theorem eq_error_iff (h : Judged W O x) (fault : Fault) :
    x = .error fault ↔ ∃ e cause, IsFirst O e cause ∧ fault = .config e.key cause := by
  cases h with
  | accepted hW hO => exact ⟨nofun, fun ⟨e, cause, hfirst, _⟩ => absurd hfirst.1 (hO e cause)⟩
  | @blamed e cause hW hO =>
    constructor
    · rintro ⟨⟩
      exact ⟨e, cause, hO, rfl⟩
    · rintro ⟨e', cause', hfirst, rfl⟩
      -- each of the two comes first
      rcases hO.2 e' cause' hfirst.1 with hlt | ⟨rfl, rfl⟩
      · rcases hfirst.2 e cause hO.1 with hlt' | ⟨rfl, rfl⟩
        · exact absurd hlt (Nat.lt_asymm hlt')
        · rfl
      · rfl

end Judged

/-! ### Readings of the entries -/

theorem judged_readNumbering (v : Value) :
    Judged (WritesNumbering v) (NumberingOffence v) (readNumbering v) := by
  refine .of_entry ?_ ?_
  · rintro mode rfl
    exact readNumbering_name mode
  · intro hnot
    unfold readNumbering
    split
    · next t =>
      have habsolute : t ≠ ofString "absolute" := fun h => hnot .absolute (congrArg Value.text h)
      have hrelative : t ≠ ofString "relative" := fun h => hnot .relative (congrArg Value.text h)
      rw [if_neg habsolute, if_neg hrelative]
      rfl
    · rfl

theorem judged_readKind (i : Nat) (v : Option Value) :
    Judged (fun kind => v = some (.text kind.text)) (KindOffence i v) (readKind i v) := by
  refine .of_entry ?_ ?_
  · rintro kind rfl
    exact readKind_text i kind
  · intro hnot
    rw [Entry.key_kind]
    unfold readKind
    split
    · next t =>
      rcases hkind : GutterKind.ofText? t with - | kind
      · rfl
      · have ht := GutterKind.ofText?_eq_some.mp hkind
        exact absurd (congrArg (some <| Value.text ·) ht.symm) (hnot kind)
    · rfl

theorem judged_readWidth (i : Nat) (v : Option Value) :
    Judged (fun n => v = some (.number n.val)) (WidthOffence i v) (readWidth i v) := by
  refine .of_entry ?_ ?_
  · rintro n rfl
    exact readWidth_natCast i n.property
  · intro hnot
    rw [Entry.key_width]
    unfold readWidth
    split
    · next n =>
      rcases hwidth : n.toPositive? with - | width
      · rfl
      · exact absurd (congrArg (some <| Value.number ·) (Number.eq_of_toPositive? hwidth))
          (hnot width)
    · rfl

/-! ### Readings of the columns -/

theorem judged_readColumn (i : Nat) (v : Value) :
    Judged (WritesColumn v) (ColumnOffence i v) (readColumn i v) := by
  by_cases hv : ∃ members, v = .object members
  · obtain ⟨members, rfl⟩ := hv
    -- the kind is read first, and its offences rank before those of the width
    have hbefore : ∀ e cause e' cause', KindOffence i (Record.find? kindKey members) e cause →
        WidthOffence i (Record.find? widthKey members) e' cause' → e.rank < e'.rank := by
      rintro e cause e' cause' ⟨-, rfl, -⟩ ⟨-, rfl, -⟩
      exact Nat.lt_succ_self _
    have h := (judged_readKind i (Record.find? kindKey members)).bind
      (fun kind => (judged_readWidth i (Record.find? widthKey members)).map
        fun width => (⟨kind, width.1, width.2⟩ : ColumnConfig)) hbefore
    refine h.congr (fun c => ?_) fun e cause => ?_
    · constructor
      · rintro ⟨kind, hkind, width, hwidth, rfl⟩
        exact ⟨members, rfl, hkind, hwidth⟩
      · rintro ⟨members', hv, hkind, hwidth⟩
        obtain rfl := Value.object.inj hv
        exact ⟨c.kind, hkind, ⟨c.width, c.width_pos⟩, hwidth, rfl⟩
    · constructor
      · rintro (h | h)
        · exact .kind h
        · exact .width h
      · rintro (hnot | h | h)
        · exact absurd rfl (hnot members)
        · exact .inl h
        · exact .inr h
  · have hread : readColumn i v = .error (.config (Entry.column i).key .expectedColumn) := by
      rw [Entry.key_column]
      unfold readColumn
      split
      · exact absurd ⟨_, rfl⟩ hv
      · rfl
    rw [hread]
    refine .of_only ?_ (.column (not_exists.mp hv)) ?_
    · rintro c ⟨members, rfl, -⟩
      exact hv ⟨members, rfl⟩
    · rintro e' cause' (hnot | hnot | hnot)
      · exact ⟨rfl, rfl⟩
      · exact absurd ⟨_, rfl⟩ hv
      · exact absurd ⟨_, rfl⟩ hv

/-- The offences of a column lie between those of the columns around it. -/
theorem ColumnOffence.rank {i : Nat} {v : Value} {e : Entry} {cause : ConfigFault}
    (h : ColumnOffence i v e cause) : 3 * i + 3 ≤ e.rank ∧ e.rank < 3 * i + 6 := by
  cases h with
  | column =>
    dsimp only [Entry.rank]
    omega
  | kind h | width h =>
    obtain ⟨-, rfl, -⟩ := h
    dsimp only [Entry.rank]
    omega

/-- What is wrong with one of the values as the columns from index `i` on. -/
def ItemOffence (i : Nat) (items : List Value) (e : Entry) (cause : ConfigFault) : Prop :=
  ∃ j v, items[j]? = some v ∧ ColumnOffence (i + j) v e cause

theorem itemOffence_cons {i : Nat} {v : Value} {rest : List Value} {e : Entry}
    {cause : ConfigFault} : ItemOffence i (v :: rest) e cause ↔
      ColumnOffence i v e cause ∨ ItemOffence (i + 1) rest e cause := by
  constructor
  · rintro ⟨j, v', hv', h⟩
    rcases j with - | j
    · exact .inl (Option.some.inj hv' ▸ h)
    · exact .inr ⟨j, v', hv', by rwa [Nat.succ_add_eq_add_succ]⟩
  · rintro (h | ⟨j, v', hv', h⟩)
    · exact ⟨0, v, rfl, h⟩
    · exact ⟨j + 1, v', hv', by rwa [← Nat.succ_add_eq_add_succ]⟩

theorem judged_readColumnsFrom (i : Nat) (items : List Value) :
    Judged (List.Forall₂ WritesColumn items) (ItemOffence i items) (readColumnsFrom i items) := by
  -- on the items, with the first column before the others
  induction items generalizing i with
  | nil =>
    refine .accepted (fun columns => List.forall₂_nil_left_iff) ?_
    rintro e cause ⟨j, v, hv, -⟩
    cases hv
  | cons v rest ih =>
    have hbefore : ∀ e cause e' cause', ColumnOffence i v e cause →
        ItemOffence (i + 1) rest e' cause' → e.rank < e'.rank := by
      rintro e cause e' cause' h ⟨j, v', -, h'⟩
      have hlast := h.rank.2
      have hfirst := h'.rank.1
      omega
    have h := (judged_readColumn i v).bind
      (fun column => (ih (i + 1)).map fun columns => column :: columns) hbefore
    refine h.congr (fun columns => ?_) fun e cause => itemOffence_cons.symm
    rw [List.forall₂_cons_left_iff]
    constructor
    · rintro ⟨column, hcolumn, columns, hcolumns, rfl⟩
      exact ⟨column, columns, hcolumn, hcolumns, rfl⟩
    · rintro ⟨column, columns, hcolumn, hcolumns, rfl⟩
      exact ⟨column, hcolumn, columns, hcolumns, rfl⟩

theorem judged_readColumns (v : Value) :
    Judged (WritesColumns v) (ColumnsOffence v) (readColumns v) := by
  by_cases hv : ∃ items, v = .array items
  · obtain ⟨items, rfl⟩ := hv
    refine (judged_readColumnsFrom 0 items).congr (fun columns => ?_) fun e cause => ?_
    · constructor
      · intro h
        exact ⟨items, rfl, h⟩
      · rintro ⟨items', hv, h⟩
        exact Value.array.inj hv ▸ h
    · constructor
      · rintro ⟨i, v, hv, h⟩
        exact .item hv (Nat.zero_add i ▸ h)
      · rintro (hnot | ⟨hv, h⟩)
        · exact absurd rfl (hnot items)
        · exact ⟨_, _, hv, (Nat.zero_add _).symm ▸ h⟩
  · have hread : readColumns v = .error (.config Entry.columns.key .expectedArray) := by
      unfold readColumns
      split
      · exact absurd ⟨_, rfl⟩ hv
      · rfl
    rw [hread]
    refine .of_only ?_ (.columns (not_exists.mp hv)) ?_
    · rintro columns ⟨items, rfl, -⟩
      exact hv ⟨items, rfl⟩
    · rintro e' cause' (hnot | ⟨-, -⟩)
      · exact ⟨rfl, rfl⟩
      · exact absurd ⟨_, rfl⟩ hv

theorem ColumnsOffence.rank {v : Value} {e : Entry} {cause : ConfigFault}
    (h : ColumnsOffence v e cause) : 2 ≤ e.rank := by
  cases h with
  | columns => exact Nat.le_refl _
  | item hv h => exact Nat.le_trans (by omega) h.rank.1

/-! ### The reading of a configuration -/

theorem judged_readMember {α : Type} {Writes : Value → α → Prop}
    {O : Value → Entry → ConfigFault → Prop} {read : Value → Except Fault α}
    (h : ∀ v, Judged (Writes v) (O v) (read v)) (fallback : α) (key : Text)
    (members : List (Text × Value)) :
    Judged (Says Writes fallback (Record.find? key members))
      (fun e cause => ∃ v, Record.find? key members = some v ∧ O v e cause)
      (readMember read fallback key members) := by
  unfold readMember
  rcases Record.find? key members with - | v
  · refine .accepted (fun _ => Iff.rfl) ?_
    rintro e cause ⟨v, hv, -⟩
    cases hv
  · refine (h v).congr (fun _ => Iff.rfl) fun e cause => ⟨fun h => ⟨v, rfl, h⟩, ?_⟩
    rintro ⟨v', hv, h⟩
    exact Option.some.inj hv ▸ h

/-- **A configuration is read as it should be.** -/
theorem judged_resolve (raw : Option Value) :
    Judged (Describes raw) (Offence raw) (resolve raw) := by
  unfold resolve
  split
  · -- nothing is handed over
    refine .accepted (fun config => ⟨?_, ?_⟩) (by rintro e cause ⟨⟩)
    · rintro ⟨⟩
      rfl
    · rintro rfl
      exact .absent
  · -- null
    refine .accepted (fun config => ⟨?_, ?_⟩) ?_
    · rintro ⟨⟩
      rfl
    · rintro rfl
      exact .null
    · rintro e cause ⟨hnull, -⟩
      exact hnull rfl
  · -- an object, whose numbering is read before its columns
    next members =>
    have hbefore : ∀ e cause e' cause',
        (∃ v, Record.find? numberingKey members = some v ∧ NumberingOffence v e cause) →
        (∃ v, Record.find? columnsKey members = some v ∧ ColumnsOffence v e' cause') →
          e.rank < e'.rank := by
      rintro e cause e' cause' ⟨v, -, -, rfl, -⟩ ⟨v', -, h'⟩
      exact h'.rank
    have h := (judged_readMember judged_readNumbering default.numbering numberingKey members).bind
      (fun numbering =>
        (judged_readMember judged_readColumns default.columns columnsKey members).map
          fun columns => (⟨numbering, columns⟩ : Config)) hbefore
    refine h.congr (fun config => ?_) fun e cause => ?_
    · constructor
      · rintro ⟨numbering, hnumbering, columns, hcolumns, rfl⟩
        exact .object hnumbering hcolumns
      · rintro (- | - | ⟨hnumbering, hcolumns⟩)
        exact ⟨config.numbering, hnumbering, config.columns, hcolumns, rfl⟩
    · constructor
      · rintro (⟨v, hv, h⟩ | ⟨v, hv, h⟩)
        · exact .numbering hv h
        · exact .columns hv h
      · rintro (⟨-, hnot⟩ | ⟨hv, h⟩ | ⟨hv, h⟩)
        · exact absurd rfl (hnot members)
        · exact .inl ⟨_, hv, h⟩
        · exact .inr ⟨_, hv, h⟩
  · -- any other value
    next v hnull hobject =>
    refine .of_only (e := .root) ?_ (.root hnull hobject) ?_
    · rintro config (- | - | -)
      · exact hnull rfl
      · exact hobject _ rfl
    · rintro e' cause' (- | hv | hv)
      · exact ⟨rfl, rfl⟩
      · exact absurd rfl (hobject _)
      · exact absurd rfl (hobject _)

/-! ### Members that mean nothing -/

/-- A name that means something in a configuration. -/
def IsKnown (name : Text) : Prop := name = numberingKey ∨ name = columnsKey

instance (name : Text) : Decidable (IsKnown name) :=
  inferInstanceAs (Decidable (name = numberingKey ∨ name = columnsKey))

/-- What is reported about a member that means nothing. -/
def warning (name : Text) : Log.Record :=
  Log.record (ofString "config") .warn
    [.text (ofString "Ignoring unknown config key " ++ quoted name)]

/-- Members that mean nothing can be left out. -/
theorem resolve_filter (members : List (Text × Value)) :
    resolve (some (.object (members.filter fun m => IsKnown m.1))) =
      resolve (some (.object members)) := by
  have hfind : ∀ key, IsKnown key →
      Record.find? key (members.filter fun m => IsKnown m.1) = Record.find? key members :=
    fun key hkey =>
      Record.find?_filter (p := fun name => IsKnown name) (decide_eq_true hkey) members
  unfold resolve readMember
  dsimp only
  rw [hfind numberingKey (.inl rfl), hfind columnsKey (.inr rfl)]

section

variable (members : List (Text × Value))

theorem mem_unknownKeys {members : List (Text × Value)} {name : Text} :
    name ∈ unknownKeys (some (.object members)) ↔
      name ∈ members.map Prod.fst ∧ ¬ IsKnown name := by
  rw [unknownKeys, List.mem_filter, Record.mem_names_entries, decide_eq_true_iff, IsKnown, not_or]

theorem pairwise_unknownKeys :
    (unknownKeys (some (.object members))).Pairwise (Record.Before (members.map Prod.fst)) :=
  (Record.pairwise_entries members).sublist List.filter_sublist

theorem nodup_unknownKeys : (unknownKeys (some (.object members))).Nodup :=
  (pairwise_unknownKeys members).imp Record.ne_of_before

end

/-- A threshold that shows warnings shows all that is reported about a configuration. -/
theorem shown_resolveRecords {threshold : Log.Threshold} (h : threshold.shows .warn = true)
    (raw : Option Value) :
    Log.shown threshold (resolveRecords raw) = (unknownKeys raw).map warning := by
  refine List.filter_eq_self.mpr fun r hr => ?_
  obtain ⟨name, -, rfl⟩ := List.mem_map.mp hr
  exact h

/-! ### Acceptance and blame -/

/-- **A configuration is accepted for what it describes, or blamed for its first offence.**  What is
handed over resolves to a configuration if and only if it describes that configuration, each absent
member standing for its own default.  It is refused if and only if something is wrong with it, with
the key and the cause of the first offence in the order of the entries.  The members of an object
that mean nothing do not take part in this: whatever the result, it is the one without them, and
each of their names is reported once, in the order of enumeration. -/
theorem resolve_blames (raw : Option Value) :
    (∀ config, resolve raw = .ok config ↔ Describes raw config) ∧
    (∀ fault, resolve raw = .error fault ↔
      ∃ e cause, IsFirst (Offence raw) e cause ∧ fault = .config e.key cause) ∧
    ∀ members, raw = some (.object members) →
      resolve raw = resolve (some (.object (members.filter fun m => IsKnown m.1))) ∧
      (∀ name, name ∈ unknownKeys raw ↔ name ∈ members.map Prod.fst ∧ ¬ IsKnown name) ∧
      (unknownKeys raw).Nodup ∧
      (unknownKeys raw).Pairwise (Record.Before (members.map Prod.fst)) ∧
      ∀ threshold : Log.Threshold, threshold.shows .warn = true →
        Log.shown threshold (resolveRecords raw) = (unknownKeys raw).map warning := by
  refine ⟨(judged_resolve raw).eq_ok_iff, (judged_resolve raw).eq_error_iff, ?_⟩
  rintro members rfl
  refine ⟨(resolve_filter members).symm, fun name => mem_unknownKeys, nodup_unknownKeys members,
    pairwise_unknownKeys members, ?_⟩
  intro threshold h
  exact shown_resolveRecords h _

/-- Two columns that are wrong behind one that is right, and three members that mean nothing, one
of them written twice. -/
def mistaken : List (Text × Value) :=
  [(ofString "zeta", .null), (ofString "10", .null),
    (columnsKey, .array
      [.object [(kindKey, .text (ofString "breakpoints")), (widthKey, .number 2)],
        .object [(kindKey, .text (ofString "minimap")), (widthKey, .number 0)], .null]),
    (ofString "2", .null), (ofString "zeta", .bool true)]

/-- The kind of the second column is blamed, though its width and the third column are wrong as
well, and the names that are array indices are reported first. -/
theorem resolve_blames_mistaken :
    (∃ e cause, IsFirst (Offence (some (.object mistaken))) e cause ∧
      e.key = ofString "gutters[1].type") ∧
    Offence (some (.object mistaken)) (.width 1) .expectedPositive ∧
    Offence (some (.object mistaken)) (.column 2) .expectedColumn ∧
    Log.shown (.from .info) (resolveRecords (some (.object mistaken))) =
      [warning (ofString "2"), warning (ofString "10"), warning (ofString "zeta")] := by
  obtain ⟨-, hblame, hobject⟩ := resolve_blames (some (.object mistaken))
  obtain ⟨-, -, -, -, hshown⟩ := hobject mistaken rfl
  have herror : resolve (some (.object mistaken)) = .error (.config (columnMemberKey 1 kindKey)
      (.expectedGutter (GutterKind.all.map (·.text)))) := by
    decide +kernel
  refine ⟨?_, ?_, ?_, ?_⟩
  · obtain ⟨e, cause, hfirst, hfault⟩ := (hblame _).mp herror
    refine ⟨e, cause, hfirst, ?_⟩
    rw [← (Fault.config.inj hfault).1]
    decide
  · refine .columns rfl (.item (i := 1) rfl (.width ⟨fun n h => ?_, rfl, rfl⟩))
    have hzero : ((0 : Nat) : Number) = n.val := Value.number.inj (Option.some.inj h)
    have := congrArg Number.toNat? hzero
    rw [Number.toNat?_natCast, Number.toNat?_natCast] at this
    exact absurd (Option.some.inj this) (Nat.ne_of_lt n.property)
  · exact .columns rfl (.item (i := 2) rfl (.column nofun))
  · have hnames : unknownKeys (some (.object mistaken)) =
        [ofString "2", ofString "10", ofString "zeta"] := by decide +kernel
    rw [hshown (.from .info) rfl, hnames]
    rfl

end Config

end EditorGutter
