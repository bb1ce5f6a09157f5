import EditorGutter.Text.Basic

/-!
Values that are read by how they are spelled.

Modifiers, color names and gutters are each looked for by their spelling among all of their kind.
Where each one is found by its own spelling, a text is read as the one value with this spelling
(`find?_spelled_eq_some`), and what is read as none is the spelling of no value
(`find?_spelled_eq_none`).
-/
namespace EditorGutter

variable {α : Type} {all : List α} {spell : α → Text} {t : Text}

theorem find?_spelled_eq_some (hread : ∀ a, (all.find? fun b => spell b = spell a) = some a)
    {a : α} : (all.find? fun b => spell b = t) = some a ↔ spell a = t := by
  constructor
  · intro h
    have := List.find?_some h
    exact of_decide_eq_true this
  · rintro rfl
    exact hread a

theorem find?_spelled_eq_none (hall : ∀ a, a ∈ all) :
    (all.find? fun b => spell b = t) = none ↔ ¬ ∃ a, spell a = t := by
  rw [List.find?_eq_none]
  constructor
  · rintro h ⟨a, ha⟩
    exact h a (hall a) (decide_eq_true ha)
  · intro h a _ ha
    exact h ⟨a, of_decide_eq_true ha⟩

end EditorGutter
