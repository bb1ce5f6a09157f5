import EditorGutter.OrderedMap
import EditorGutter.Text.Basic

/-!
Records: lists of named members, with the meaning and the order that their names give them.

A later member with a name that has occurred takes the place of the earlier one.  Members are
enumerated with the array indices among the names first, in ascending order, and the other names
after them, in the order in which they first occurred.  A name is an array index if it is the
plain decimal text of a number below `2 ^ 32 - 1`.
-/
namespace EditorGutter

namespace Record

variable {α : Type}

/-! ### Array indices -/

/-- The value of a decimal digit. -/
def digitValue? (u : UInt16) : Option Nat :=
  if 0x30 ≤ u && u ≤ 0x39 then some (u.toNat - 0x30) else none

/-- The number that decimal digits continue from `n`. -/
def continueDecimal? (n : Nat) : Text → Option Nat
  | [] => some n
  | u :: rest =>
    match digitValue? u with
    | some d => continueDecimal? (n * 10 + d) rest
    | none => none

/-- One more than the largest array index: `2 ^ 32 - 1`. -/
def indexLimit : Nat := 0xFFFFFFFF

/-- The array index that a name is, if it is one: no sign, no leading zero, below the limit. -/
def arrayIndex? (name : Text) : Option Nat :=
  match name with
  | [] => none
  | [u] => digitValue? u
  | u :: rest =>
    if u = 0x30 then none
    else
      match continueDecimal? 0 (u :: rest) with
      | some n => if n < indexLimit then some n else none
      | none => none

/-! ### Enumeration -/

/-- Puts a member with an array index before the first member with a larger one. -/
def insertByIndex (i : Nat) (m : Text × α) : List (Nat × (Text × α)) → List (Nat × (Text × α))
  | [] => [(i, m)]
  | (j, m') :: rest =>
    if i < j then (i, m) :: (j, m') :: rest else (j, m') :: insertByIndex i m rest

/-- The members whose names are array indices, in ascending order. -/
def indexedMembers : List (Text × α) → List (Nat × (Text × α))
  | [] => []
  | m :: rest =>
    match arrayIndex? m.1 with
    | some i => insertByIndex i m (indexedMembers rest)
    | none => indexedMembers rest

/-- The members whose names are not array indices. -/
def namedMembers (ms : List (Text × α)) : List (Text × α) :=
  ms.filter fun m => (arrayIndex? m.1).isNone

/-- Distinct members in the order of enumeration. -/
def enumerate (ms : List (Text × α)) : List (Text × α) :=
  (indexedMembers ms).map Prod.snd ++ namedMembers ms

/-- The members of a record in the order of enumeration, each name once. -/
def entries (ms : List (Text × α)) : List (Text × α) :=
  enumerate (OrderedMap.ofList ms).entries

/-- The value of a member. -/
def find? (name : Text) (ms : List (Text × α)) : Option α :=
  (OrderedMap.ofList ms).get? name

/-! ### Distinct names -/

section

variable {ms : List (Text × α)}

/-- The value of a member is found if no other has its name. -/
theorem find?_eq_some {name : Text} {a : α} (h : (ms.map Prod.fst).Nodup) (hmem : (name, a) ∈ ms) :
    find? name ms = some a := by
  rw [find?, ← OrderedMap.mem_entries_iff, OrderedMap.entries_ofList h]
  exact hmem

theorem indexedMembers_eq_nil (h : ∀ m ∈ ms, arrayIndex? m.1 = none) : indexedMembers ms = [] := by
  induction ms with
  | nil => rfl
  | cons m rest ih =>
    obtain ⟨hm, hrest⟩ := List.forall_mem_cons.1 h
    rw [indexedMembers, hm]
    exact ih hrest

/-- Members with distinct names are enumerated as they are if no name is an array index. -/
theorem entries_eq (h : (ms.map Prod.fst).Nodup) (hnames : ∀ m ∈ ms, arrayIndex? m.1 = none) :
    entries ms = ms := by
  rw [entries, OrderedMap.entries_ofList h, enumerate, indexedMembers_eq_nil hnames]
  exact List.filter_eq_self.2 fun m hm => by rw [hnames m hm]; rfl

end

end Record

end EditorGutter
