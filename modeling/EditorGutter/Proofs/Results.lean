import EditorGutter.Fault

/-!
Results that may be faults.

A chain of steps that gets to its end has made each of them (`exists_of_bind_eq_ok`), and one that
does not fails with the first of what is wrong with any of them (`FailsFirst.bind`).  What a result
says about failing is the fault in it (`Fault.of?`).  Two results agree if they are the same
fault or related successes (`Agree`), and chains of agreeing steps agree (`Agree.bind`).
-/
namespace EditorGutter

variable {α β : Type}

instance [DecidableEq α] : DecidableEq (Except Fault α)
  | .error fault, .error fault' => decidable_of_iff (fault = fault') ⟨congrArg _, Except.error.inj⟩
  | .ok a, .ok b => decidable_of_iff (a = b) ⟨congrArg _, Except.ok.inj⟩
  | .error _, .ok _ => .isFalse nofun
  | .ok _, .error _ => .isFalse nofun

/-- A result that counts as a success is one. -/
theorem exists_eq_ok {x : Except Fault α} (h : x.isOk = true) : ∃ a, x = .ok a := by
  rcases x with e | a
  · cases h
  · exact ⟨a, rfl⟩

theorem not_exists_eq_error_iff {ε : Type} {x : Except ε α} :
    (¬ ∃ fault, x = .error fault) ↔ ∃ a, x = .ok a := by
  rcases x with fault | a
  · exact ⟨fun h => (h ⟨fault, rfl⟩).elim, nofun⟩
  · refine iff_of_true ?_ ⟨a, rfl⟩
    rintro ⟨fault, h⟩
    cases h

/-- A result that is no success is a fault. -/
theorem exists_eq_error {ε : Type} {x : Except ε α} (h : ∀ a, x ≠ .ok a) :
    ∃ fault, x = .error fault := by
  rcases x with fault | a
  · exact ⟨fault, rfl⟩
  · exact absurd rfl (h a)

/-- A chain that gets to its end has made its first step. -/
theorem exists_of_bind_eq_ok {ε : Type} {x : Except ε α} {next : α → Except ε β} {b : β}
    (h : x.bind next = .ok b) : ∃ a, x = .ok a ∧ next a = .ok b := by
  rcases x with e | a
  · cases h
  · exact ⟨a, rfl, h⟩

/-! ### Results that fail with the first of some faults -/

/-- A result fails with the first of some faults, and is a success if there are none. -/
def FailsFirst {ε : Type} (x : Except ε α) : List ε → Prop
  | [] => ∃ a, x = .ok a
  | fault :: _ => x = .error fault

section

variable {ε : Type} {x : Except ε α} {faults faults' : List ε}

theorem FailsFirst.eq_error_iff (h : FailsFirst x faults) {fault : ε} :
    x = .error fault ↔ faults.head? = some fault := by
  rcases faults with - | ⟨first, rest⟩
  · obtain ⟨a, rfl⟩ := h
    exact ⟨nofun, nofun⟩
  · obtain rfl : x = .error first := h
    rw [List.head?_cons, Option.some.injEq, Except.error.injEq]

/-- A chain fails with the faults of its first step before those of the rest. -/
theorem FailsFirst.bind {next : α → Except ε β} (h : FailsFirst x faults)
    (hnext : ∀ a, FailsFirst (next a) faults') : FailsFirst (x.bind next) (faults ++ faults') := by
  rcases faults with - | ⟨first, rest⟩
  · obtain ⟨a, rfl⟩ := h
    exact hnext a
  · obtain rfl : x = .error first := h
    exact rfl

end

/-! ### Two results -/

/-- Two results agree: they are the same fault, or both successes, and related. -/
inductive Agree (R : α → β → Prop) : Except Fault α → Except Fault β → Prop
  | error (fault : Fault) : Agree R (.error fault) (.error fault)
  | ok {a : α} {b : β} (h : R a b) : Agree R (.ok a) (.ok b)

namespace Agree

variable {γ δ : Type} {R : α → β → Prop} {S : γ → δ → Prop}

theorem bind {x : Except Fault α} {y : Except Fault β} {f : α → Except Fault γ}
    {g : β → Except Fault δ} (h : Agree R x y) (hnext : ∀ a b, R a b → Agree S (f a) (g b)) :
    Agree S (x.bind f) (y.bind g) := by
  cases h with
  | error fault => exact .error fault
  | ok h => exact hnext _ _ h

/-- Chains that begin with the same step agree if what comes next does. -/
theorem bind_same (x : Except Fault α) {f : α → Except Fault γ} {g : α → Except Fault δ}
    (hnext : ∀ a, Agree S (f a) (g a)) : Agree S (x.bind f) (x.bind g) := by
  rcases x with fault | a
  · exact .error fault
  · exact hnext a

theorem eq {x y : Except Fault α} (h : Agree Eq x y) : x = y := by
  cases h with
  | error fault => rfl
  | ok h => rw [h]

end Agree

/-! ### Faults -/

namespace Fault

/-- The fault of a result, if it is one. -/
def of? : Except Fault α → Option Fault
  | .error fault => some fault
  | .ok _ => none

variable {x : Except Fault α} {fault : Fault}

theorem of?_eq_some : of? x = some fault ↔ x = .error fault := by
  rcases x with e | a
  · constructor
    · intro h
      rw [Option.some.inj h]
    · intro h
      rw [Except.error.inj h]
      rfl
  · exact ⟨nofun, nofun⟩

theorem of?_eq_none : of? x = none ↔ ∃ a, x = .ok a := by
  rcases x with e | a
  · exact ⟨nofun, nofun⟩
  · exact ⟨fun _ => ⟨a, rfl⟩, fun _ => rfl⟩

end Fault

end EditorGutter
