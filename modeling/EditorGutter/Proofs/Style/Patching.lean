import EditorGutter.Style

/-!
Laying styles over one another.

A style changes the modifiers of what is below it in two steps: it turns some off and then some on
(`maskOver`).  Both masks of a patched style are those of the lower part changed in this way, for
the second mask with on and off exchanged.  One law of words, that two such changes make up a third
(`maskOver_maskOver`), is therefore behind everything here: patching is associative, and a patched
style draws as its parts do one after the other (`apply_patch`).  It holds of all masks, also where
a modifier is turned both on and off.

Masks are numbers, and every operation on them gives the signed value of a word.  So a style is left
as it is by the style that changes nothing only if its masks are such values (`Style.Masked`).  The
main result is `patch_monoid`.
-/
namespace EditorGutter

/-! ### Masks -/

/-- A number is a mask of 32 bits: the signed value of a word. -/
def Number.IsMask (x : Number) : Prop := .ofWord x.toWord = x

instance (x : Number) : Decidable x.IsMask := inferInstanceAs (Decidable (_ = _))

/-- A mask with the modifiers of `off` turned off and then those of `on` turned on. -/
def maskOver (m off on : Number) : Number := maskUnion (maskWithout m off) on

section

variable {m off on off' on' : Number}

theorem isMask_ofWord (w : BitVec 32) : (Number.ofWord w).IsMask := by
  rw [Number.IsMask, Number.toWord_ofWord]

theorem isMask_maskOver (m off on : Number) : (maskOver m off on).IsMask := isMask_ofWord _

theorem maskOver_eq (m off on : Number) :
    maskOver m off on = .ofWord (m.toWord &&& ~~~off.toWord ||| on.toWord) := by
  rw [maskOver, maskUnion, maskWithout, Number.toWord_ofWord]

/-- Each bit of a word goes through two changes as through the one that they make up: where the
second turns it on or off, it does not matter what the first did. -/
theorem bit_over : ∀ x off on off' on' : Bool,
    (((x && !off || on) && !off') || on') =
      ((x && !(off && !on' || off')) || (on && !off' || on')) := by
  decide

theorem word_over (x off on off' on' : BitVec 32) :
    (x &&& ~~~off ||| on) &&& ~~~off' ||| on' =
      x &&& ~~~(off &&& ~~~on' ||| off') ||| (on &&& ~~~off' ||| on') := by
  apply BitVec.eq_of_getLsbD_eq
  intro i hi
  simp only [BitVec.getLsbD_or, BitVec.getLsbD_and, BitVec.getLsbD_not, hi, decide_true,
    Bool.true_and]
  exact bit_over _ _ _ _ _

/-- **Two changes of a mask are one**: the one whose masks are those of the first, changed by those
of the second. -/
theorem maskOver_maskOver (m off on off' on' : Number) :
    maskOver (maskOver m off on) off' on' =
      maskOver m (maskOver off on' off') (maskOver on off' on') := by
  simp only [maskOver_eq, Number.toWord_ofWord]
  rw [word_over]

theorem toWord_zero : (0 : Number).toWord = 0#32 := rfl

theorem maskOver_zero (h : m.IsMask) : maskOver m 0 0 = m := by
  rw [maskOver_eq, toWord_zero, BitVec.not_zero, BitVec.and_allOnes, BitVec.or_zero]
  exact h

theorem zero_maskOver (h : on.IsMask) (off : Number) : maskOver 0 off on = on := by
  rw [maskOver_eq, toWord_zero, BitVec.zero_and, BitVec.zero_or]
  exact h

theorem maskOver_self (h : on.IsMask) (off : Number) : maskOver on off on = on := by
  have hword : on.toWord &&& ~~~off.toWord ||| on.toWord = on.toWord := by
    apply BitVec.eq_of_getLsbD_eq
    intro i hi
    rw [BitVec.getLsbD_or, BitVec.getLsbD_and]
    rcases on.toWord.getLsbD i with - | - <;> simp
  rw [maskOver_eq, hword]
  exact h

/-- Turning modifiers on is a change that turns nothing off. -/
theorem maskOver_add (m mask : Number) :
    maskOver m (maskWithout 0 mask) (maskUnion 0 mask) = maskUnion m mask := by
  rw [maskOver_eq, maskWithout, maskUnion, Number.toWord_ofWord, Number.toWord_ofWord, toWord_zero,
    BitVec.zero_and, BitVec.zero_or, BitVec.not_zero, BitVec.and_allOnes]
  rfl

/-- Turning modifiers off is a change that turns nothing on. -/
theorem maskOver_remove (m mask : Number) :
    maskOver m (maskUnion 0 mask) (maskWithout 0 mask) = maskWithout m mask := by
  rw [maskOver_eq, maskWithout, maskUnion, Number.toWord_ofWord, Number.toWord_ofWord, toWord_zero,
    BitVec.zero_and, BitVec.zero_or, BitVec.or_zero]
  rfl

end

/-! ### The modifiers of a mask -/

namespace Style

/-- Whether a style turns a modifier on: its bit is set. -/
def turnsOn (s : Style) (m : Modifier) : Bool := s.add.toWord.getLsbD m.bit

theorem ofWord_twoPow_bit (m : Modifier) : Number.ofWord (BitVec.twoPow 32 m.bit) = m.mask := by
  cases m <;> rfl

theorem hasModifier_mask (s : Style) (m : Modifier) : s.hasModifier m.mask = s.turnsOn m := by
  rw [hasModifier, maskInter, turnsOn, ← ofWord_twoPow_bit, Number.toWord_ofWord, BitVec.and_twoPow]
  rcases s.add.toWord.getLsbD m.bit with - | -
  · rw [if_neg Bool.false_ne_true]
    cases m <;> rfl
  · rw [if_pos rfl]
    cases m <;> rfl

end Style

/-- The word with one bit on or off and every other one as it was. -/
def wordWithBit (i : Nat) (on : Bool) (w : BitVec 32) : BitVec 32 :=
  if w.getLsbD i = on then w else w ^^^ BitVec.twoPow 32 i

/-- The mask with one bit on or off and every other one as it was. -/
def Number.withBit (i : Nat) (on : Bool) (x : Number) : Number :=
  .ofWord (wordWithBit i on x.toWord)

theorem getLsbD_wordWithBit {i : Nat} (hi : i < 32) (on : Bool) (w : BitVec 32) (j : Nat) :
    (wordWithBit i on w).getLsbD j = if j = i then on else w.getLsbD j := by
  unfold wordWithBit
  split
  · next h =>
    split
    · next hj => rw [hj, h]
    · rfl
  · next h =>
    rw [BitVec.getLsbD_xor, BitVec.getLsbD_twoPow, decide_eq_true hi, Bool.true_and]
    split
    · next hj =>
      rw [hj, decide_eq_true rfl, Bool.xor_true]
      exact Bool.not_eq.mpr h
    · next hj => rw [decide_eq_false (Ne.symm hj), Bool.xor_false]

section

variable (x : Number) (m : Modifier)

/-- A modifier is turned on by its bit. -/
theorem maskUnion_mask : maskUnion x m.mask = x.withBit m.bit true := by
  rw [maskUnion, Number.withBit, ← Style.ofWord_twoPow_bit, Number.toWord_ofWord]
  congr 1
  apply BitVec.eq_of_getLsbD_eq
  intro j hj
  rw [getLsbD_wordWithBit m.bit_lt, BitVec.getLsbD_or, BitVec.getLsbD_twoPow]
  split
  · next h => simp [h, m.bit_lt]
  · next h => simp [Ne.symm h]

/-- A modifier is turned off by its bit. -/
theorem maskWithout_mask : maskWithout x m.mask = x.withBit m.bit false := by
  rw [maskWithout, Number.withBit, ← Style.ofWord_twoPow_bit, Number.toWord_ofWord]
  congr 1
  apply BitVec.eq_of_getLsbD_eq
  intro j hj
  rw [getLsbD_wordWithBit m.bit_lt, BitVec.getLsbD_and, BitVec.getLsbD_not, BitVec.getLsbD_twoPow]
  split
  · next h => simp [h, m.bit_lt]
  · next h => simp [hj, Ne.symm h]

/-- The bits of a mask that gains a modifier. -/
theorem bit_maskUnion_mask (i : Nat) :
    (maskUnion x m.mask).toWord.getLsbD i = true ↔ x.toWord.getLsbD i = true ∨ m.bit = i := by
  rw [maskUnion_mask, Number.withBit, Number.toWord_ofWord, getLsbD_wordWithBit m.bit_lt]
  split
  · next h => simp [h]
  · next h => simp [Ne.symm h]

end

theorem zero_maskWithout (mask : Number) : maskWithout 0 mask = 0 := by
  rw [maskWithout, toWord_zero, BitVec.zero_and]
  rfl

/-! ### Patching -/

/-- What a terminal draws with: its colors, none for its own, and the modifiers that are on. -/
structure TerminalState where
  fg : Option Color
  bg : Option Color
  mask : Number
  deriving DecidableEq

namespace Style

/-- A style whose masks are masks of 32 bits. -/
structure Masked (s : Style) : Prop where
  add : s.add.IsMask
  sub : s.sub.IsMask

/-- The state in which something with this style is drawn: the colors that the style sets are put
in, and its modifiers are turned off and on. -/
def apply (s : Style) (t : TerminalState) : TerminalState where
  fg := s.fg <|> t.fg
  bg := s.bg <|> t.bg
  mask := maskUnion (maskWithout t.mask s.sub) s.add

theorem apply_eq (s : Style) (t : TerminalState) :
    s.apply t = ⟨s.fg.or t.fg, s.bg.or t.bg, maskOver t.mask s.sub s.add⟩ := by
  simp only [apply, maskOver, Option.orElse_eq_orElse, Option.orElse_eq_or]

theorem patch_eq (base layer : Style) :
    base.patch layer =
      ⟨layer.fg.or base.fg, layer.bg.or base.bg, maskOver base.add layer.sub layer.add,
        maskOver base.sub layer.add layer.sub⟩ := by
  simp only [patch, maskOver, Option.orElse_eq_orElse, Option.orElse_eq_or]

theorem masked_patch (base layer : Style) : (base.patch layer).Masked :=
  ⟨isMask_maskOver _ _ _, isMask_maskOver _ _ _⟩

theorem patch_assoc (a b c : Style) : (a.patch b).patch c = a.patch (b.patch c) := by
  simp only [patch_eq, Option.or_assoc, maskOver_maskOver]

/-- A patched style draws as its parts do, the lower one first. -/
theorem apply_patch (a b : Style) (t : TerminalState) :
    (a.patch b).apply t = b.apply (a.apply t) := by
  simp only [patch_eq, apply_eq, Option.or_assoc, maskOver_maskOver]

theorem empty_patch {s : Style} (h : s.Masked) : empty.patch s = s := by
  rw [patch_eq]
  show Style.mk (s.fg.or none) (s.bg.or none) (maskOver 0 s.sub s.add) (maskOver 0 s.add s.sub) = s
  rw [Option.or_none, Option.or_none, zero_maskOver h.add, zero_maskOver h.sub]

theorem patch_empty {s : Style} (h : s.Masked) : s.patch empty = s := by
  show Style.mk s.fg s.bg (maskOver s.add 0 0) (maskOver s.sub 0 0) = s
  rw [maskOver_zero h.add, maskOver_zero h.sub]

theorem empty_apply {t : TerminalState} (h : t.mask.IsMask) : empty.apply t = t := by
  show TerminalState.mk t.fg t.bg (maskOver t.mask 0 0) = t
  rw [maskOver_zero h]

theorem patch_self {s : Style} (h : s.Masked) : s.patch s = s := by
  rw [patch_eq, Option.or_self, Option.or_self, maskOver_self h.add, maskOver_self h.sub]

/-! ### Single changes -/

theorem withFg_eq_patch {s : Style} (h : s.Masked) (color : Color) :
    s.withFg color = s.patch (empty.withFg color) := by
  show s.withFg color = ⟨some color, s.bg, maskOver s.add 0 0, maskOver s.sub 0 0⟩
  rw [maskOver_zero h.add, maskOver_zero h.sub]
  rfl

theorem withBg_eq_patch {s : Style} (h : s.Masked) (color : Color) :
    s.withBg color = s.patch (empty.withBg color) := by
  show s.withBg color = ⟨s.fg, some color, maskOver s.add 0 0, maskOver s.sub 0 0⟩
  rw [maskOver_zero h.add, maskOver_zero h.sub]
  rfl

/-- Turning modifiers on is laying a style over that does nothing else. -/
theorem addModifier_eq_patch (s : Style) (mask : Number) :
    s.addModifier mask = s.patch (empty.addModifier mask) := by
  show s.addModifier mask =
    ⟨s.fg, s.bg, maskOver s.add (maskWithout 0 mask) (maskUnion 0 mask),
      maskOver s.sub (maskUnion 0 mask) (maskWithout 0 mask)⟩
  rw [maskOver_add, maskOver_remove]
  rfl

theorem removeModifier_eq_patch (s : Style) (mask : Number) :
    s.removeModifier mask = s.patch (empty.removeModifier mask) := by
  show s.removeModifier mask =
    ⟨s.fg, s.bg, maskOver s.add (maskUnion 0 mask) (maskWithout 0 mask),
      maskOver s.sub (maskWithout 0 mask) (maskUnion 0 mask)⟩
  rw [maskOver_add, maskOver_remove]
  rfl

/-- **Patching is a monoid that acts on what a terminal draws with.**  It is associative; among the
styles with masks of 32 bits, which patching does not leave, the style that changes nothing is its
identity, and a style laid over itself is itself.  A patched style draws as its parts do one after
the other, and the style that changes nothing draws in the state that there is.  Setting a color and
turning modifiers on or off is laying a style over that does only this. -/
theorem patch_monoid :
    (∀ a b c : Style, (a.patch b).patch c = a.patch (b.patch c)) ∧
    (∀ a b : Style, (a.patch b).Masked) ∧
    (∀ a : Style, a.Masked → empty.patch a = a ∧ a.patch empty = a ∧ a.patch a = a) ∧
    (∀ (a b : Style) (t : TerminalState), (a.patch b).apply t = b.apply (a.apply t)) ∧
    (∀ t : TerminalState, t.mask.IsMask → empty.apply t = t) ∧
    (∀ s : Style, s.Masked → ∀ color,
      s.withFg color = s.patch (empty.withFg color) ∧
      s.withBg color = s.patch (empty.withBg color)) ∧
    ∀ (s : Style) (mask : Number),
      s.addModifier mask = s.patch (empty.addModifier mask) ∧
      s.removeModifier mask = s.patch (empty.removeModifier mask) := by
  refine ⟨patch_assoc, masked_patch, ?_, apply_patch, ?_, ?_, ?_⟩
  · intro a ha
    exact ⟨empty_patch ha, patch_empty ha, patch_self ha⟩
  · intro t ht
    exact empty_apply ht
  · intro s hs color
    exact ⟨withFg_eq_patch hs color, withBg_eq_patch hs color⟩
  · intro s mask
    exact ⟨addModifier_eq_patch s mask, removeModifier_eq_patch s mask⟩

/-- Red, turning dim on, italic off and bold both on and off. -/
def redOver : Style where
  fg := some (.named .red)
  add := 0b011
  sub := 0b101

/-- A background, turning the highest modifier on and dim off. -/
def markedOver : Style where
  bg := some (.indexed 7)
  add := -0x80000000
  sub := 0b010

/-- With modifiers turned both ways and the one with the sign of the mask, all of it holds. -/
theorem patch_monoid_overlapping :
    redOver.Masked ∧ markedOver.Masked ∧
      redOver.patch markedOver =
        ⟨some (.named .red), some (.indexed 7), -0x7FFFFFFF, 0b111⟩ ∧
      empty.patch redOver = redOver ∧ redOver.patch empty = redOver ∧
      redOver.patch redOver = redOver ∧
      (redOver.patch markedOver).apply ⟨none, none, 0b100⟩ =
        ⟨some (.named .red), some (.indexed 7), -0x7FFFFFFF⟩ ∧
      redOver.withFg (.named .blue) = redOver.patch (empty.withFg (.named .blue)) := by
  have hred : redOver.Masked := ⟨by decide +kernel, by decide +kernel⟩
  have hmarked : markedOver.Masked := ⟨by decide +kernel, by decide +kernel⟩
  obtain ⟨-, -, hidentity, happly, -, hcolor, -⟩ := patch_monoid
  obtain ⟨hempty, hempty', hself⟩ := hidentity redOver hred
  refine ⟨hred, hmarked, by decide +kernel, hempty, hempty', hself, ?_,
    (hcolor redOver hred (.named .blue)).1⟩
  rw [happly]
  decide +kernel

end Style

end EditorGutter
