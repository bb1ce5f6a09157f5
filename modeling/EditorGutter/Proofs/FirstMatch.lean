/-!
Changing the first element of a list that matches.

`updateFirst p f` finds the first element with `p` and puts in its place what `f` makes of it, or
takes it out.  Around it the list stays as it is (`exists_updateFirst`), and two such changes that
do not make elements match for each other may be made in either order (`updateFirst_comm`).
-/
namespace EditorGutter

variable {α β : Type} {p q : α → Bool} {f g : α → Option α} {as : List α}

/-- The list with its first element that matches changed, or taken out where there is no change. -/
def updateFirst (p : α → Bool) (f : α → Option α) : List α → List α
  | [] => []
  | a :: rest => if p a then (f a).toList ++ rest else a :: updateFirst p f rest

theorem updateFirst_of_forall (h : ∀ a ∈ as, p a = false) : updateFirst p f as = as := by
  induction as with
  | nil => rfl
  | cons a rest ih =>
    obtain ⟨ha, hrest⟩ := List.forall_mem_cons.1 h
    rw [updateFirst, if_neg (by simp [ha]), ih hrest]

/-- Where some element matches there is a first one, and it alone is changed. -/
theorem exists_updateFirst (p : α → Bool) (f : α → Option α) (h : ∃ a ∈ as, p a = true) :
    ∃ before a after, as = before ++ a :: after ∧ (∀ b ∈ before, p b = false) ∧ p a = true ∧
      updateFirst p f as = before ++ ((f a).toList ++ after) := by
  induction as with
  | nil => simp at h
  | cons b rest ih =>
    rcases hb : p b with - | -
    · -- the head stays, so the element is further back
      have hrest : ∃ a ∈ rest, p a = true := by simpa [hb] using h
      obtain ⟨before, a, after, rfl, hbefore, ha, hupdate⟩ := ih hrest
      refine ⟨b :: before, a, after, rfl, List.forall_mem_cons.2 ⟨hb, hbefore⟩, ha, ?_⟩
      rw [updateFirst, if_neg (by simp [hb]), hupdate]
      rfl
    · exact ⟨[], b, rest, rfl, nofun, hb, by rw [updateFirst, if_pos hb]; rfl⟩

theorem updateFirst_append (p : α → Bool) (f : α → Option α) (as bs : List α) :
    updateFirst p f (as ++ bs) =
      if as.any p then updateFirst p f as ++ bs else as ++ updateFirst p f bs := by
  induction as with
  | nil => rfl
  | cons a rest ih =>
    rw [List.cons_append, updateFirst, updateFirst, List.any_cons, ih]
    rcases p a with - | -
    · by_cases h : rest.any p
      · simp [h]
      · simp [h]
    · simp

/-- A change among elements that do not match `q`, to ones that do not either, is not seen by
`q`. -/
theorem any_updateFirst (hq : ∀ a, p a = true → q a = false)
    (hf : ∀ a a', p a = true → f a = some a' → q a' = false) :
    (updateFirst p f as).any q = as.any q := by
  induction as with
  | nil => rfl
  | cons a rest ih =>
    rw [updateFirst]
    split
    · next ha =>
      rcases h : f a with - | a'
      · simp [hq a ha]
      · simp [hq a ha, hf a a' ha h]
    · rw [List.any_cons, List.any_cons, ih]

/-- Two changes commute if each leaves it alone which elements match for the other, and they
commute on the elements that match for both. -/
theorem updateFirst_comm (hf : ∀ a a', p a = true → f a = some a' → q a' = q a)
    (hg : ∀ a a', q a = true → g a = some a' → p a' = p a)
    (hfg : ∀ a, p a = true → q a = true →
      ∃ b c, f a = some b ∧ g a = some c ∧ f c = g b) (as : List α) :
    updateFirst p f (updateFirst q g as) = updateFirst q g (updateFirst p f as) := by
  induction as with
  | nil => rfl
  | cons a rest ih =>
    rcases hp : p a with - | - <;> rcases hq : q a with - | -
    · simp [updateFirst, hp, hq, ih]
    · rcases hc : g a with - | c
      · simp [updateFirst, hp, hq, hc]
      · simp [updateFirst, hp, hq, hc, (hg a c hq hc).trans hp]
    · rcases hb : f a with - | b
      · simp [updateFirst, hp, hq, hb]
      · simp [updateFirst, hp, hq, hb, (hf a b hp hb).trans hq]
    · -- the head matches for both
      obtain ⟨b, c, hb, hc, hcb⟩ := hfg a hp hq
      simp [updateFirst, hp, hq, hb, hc, (hf a b hp hb).trans hq, (hg a c hq hc).trans hp, hcb]

/-- A change that keeps what is read off an element can only take something out of what is read
off the list. -/
theorem filterMap_updateFirst_sublist {k : α → Option β}
    (hf : ∀ a a', p a = true → f a = some a' → k a' = k a) :
    ((updateFirst p f as).filterMap k).Sublist (as.filterMap k) := by
  induction as with
  | nil => exact .refl _
  | cons a rest ih =>
    rw [updateFirst]
    split
    · next ha =>
      rcases h : f a with - | a'
      · exact (List.sublist_cons_self a rest).filterMap k
      · have hsame : (a' :: rest).filterMap k = (a :: rest).filterMap k := by
          rw [List.filterMap_cons, List.filterMap_cons, hf a a' ha h]
        exact hsame ▸ .refl _
    · rw [List.filterMap_cons, List.filterMap_cons]
      split
      · exact ih
      · exact ih.cons_cons _

end EditorGutter
