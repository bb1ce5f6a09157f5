import EditorGutter.Text.Blank

/-!
Blanks around a text, which trimming takes away.

Blanks at the start are dropped from there (`trimStart_append`) and blanks at the end from there
(`trimEnd_append`), and a text without blanks stops both.  So a text without blanks is what is left
of it with any blanks around it (`trim_around`).
-/
namespace EditorGutter

namespace Text

/-- A text of blanks only. -/
def Blank (t : Text) : Prop := ∀ u ∈ t, isBlank u = true

/-- A text without blanks. -/
def Blankless (t : Text) : Prop := ∀ u ∈ t, isBlank u = false

instance (t : Text) : Decidable (Blank t) := List.decidableBAll _ t

instance (t : Text) : Decidable (Blankless t) := List.decidableBAll _ t

variable {t before after : Text}

theorem blank_spaces (n : Nat) : Blank (spaces n) := by
  intro u hu
  rw [List.eq_of_mem_replicate hu]
  decide

/-! ### One end -/

theorem trimStart_append (h : Blank before) (t : Text) : trimStart (before ++ t) = trimStart t :=
  List.dropWhile_append_of_pos h

/-- A text that starts with no blank keeps its start. -/
theorem trimStart_cons {u : UInt16} (h : isBlank u = false) (t : Text) :
    trimStart (u :: t) = u :: t := by
  rw [trimStart, List.dropWhile_cons, h]
  rfl

/-- Trimming the end is trimming the start from the other side. -/
theorem trimEnd_eq (t : Text) : trimEnd t = (trimStart t.reverse).reverse := rfl

theorem trimEnd_append (h : Blank after) (t : Text) : trimEnd (t ++ after) = trimEnd t := by
  have hreverse : Blank after.reverse := fun u hu => h u (List.mem_reverse.mp hu)
  rw [trimEnd_eq, List.reverse_append, trimStart_append hreverse, trimEnd_eq]

theorem trimStart_of_blankless (h : Blankless t) : trimStart t = t := by
  rcases t with - | ⟨u, rest⟩
  · rfl
  · exact trimStart_cons (h u List.mem_cons_self) rest

theorem trimEnd_of_blankless (h : Blankless t) : trimEnd t = t := by
  have hreverse : Blankless t.reverse := fun u hu => h u (List.mem_reverse.mp hu)
  rw [trimEnd_eq, trimStart_of_blankless hreverse, List.reverse_reverse]

/-! ### Both ends -/

/-- **A text without blanks is what trimming leaves of it with blanks around it.** -/
theorem trim_around (h : Blankless t) (hbefore : Blank before) (hafter : Blank after) :
    trim (before ++ (t ++ after)) = t := by
  rw [trim, trimStart_append hbefore]
  rcases t with - | ⟨u, rest⟩
  · -- nothing but blanks is left
    have hnothing : trimStart after = [] := by
      rw [← List.append_nil after, trimStart_append hafter]
      rfl
    rw [List.nil_append, hnothing]
    rfl
  · rw [List.cons_append, trimStart_cons (h u List.mem_cons_self), ← List.cons_append,
      trimEnd_append hafter, trimEnd_of_blankless h]

end Text

end EditorGutter
