import EditorGutter.Proofs.Paint.Terminal
import EditorGutter.Proofs.Style.Patching
import EditorGutter.Text.Lines
import Mathlib.Data.Finset.Dedup
import Mathlib.Data.Finset.Lattice.Lemmas

/-!
What a terminal makes of the strokes of a pen.

A text of codes takes a terminal from one appearance to another without showing anything (`Takes`).
A pen spans two appearances if opening its strokes takes the terminal from the first to the second
and closing them takes it back (`Pen.Spans`).  Pens that span are put together end to end
(`Spans.append`), and what such a pen paints looks like the second appearance while the terminal
stays in the first (`Spans.run_paint`).

The stroke of a color spans (`Color.spans_stroke?`).  That of a modifier need not: bold and dim are
turned off by one code, so closing the inner one of them turns off the outer one too.  The strokes
of all modifiers together still span an appearance without modifiers (`Style.spans_modifiers`),
since closing them turns off at least those that they turned on.
-/
namespace EditorGutter

open Text

/-! ### Texts of codes -/

/-- The text shows nothing and takes a terminal from one appearance to another. -/
def Takes (t : Text) (a a' : Appearance) : Prop :=
  ∀ shown, Terminal.run ⟨.text, a, shown⟩ t = ⟨.text, a', shown⟩

section

variable {a a' a'' : Appearance} {t t' : Text}

theorem Takes.nil (a : Appearance) : Takes [] a a := fun _ => rfl

theorem Takes.append (h : Takes t a a') (h' : Takes t' a' a'') : Takes (t ++ t') a a'' := by
  intro shown
  rw [Terminal.run_append, h, h']

theorem takes_numbers (a : Appearance) (n : Nat) (rest : List Nat) :
    Takes (rendition (joinWith (ofString ";") ((n :: rest).map ofNat))) a (a.select (n :: rest)) :=
  fun _ => Terminal.run_rendition n rest

theorem takes_number {n : Nat} (h : Appearance.extended? n = none) (a : Appearance) :
    Takes (rendition (ofNat n)) a (a.change n) := by
  have hjoin : ofNat n = joinWith (ofString ";") ([n].map ofNat) :=
    List.intercalate_singleton.symm
  rw [← Appearance.select_singleton h, hjoin]
  exact takes_numbers a n []

end

/-! ### Pens -/

namespace Pen

theorem openAll_append (p q : Pen) : openAll (p ++ q) = p.openAll ++ q.openAll :=
  List.flatMap_append

theorem closeAll_append (p q : Pen) : closeAll (p ++ q) = q.closeAll ++ p.closeAll := by
  rw [closeAll, List.reverse_append, List.flatMap_append]
  rfl

theorem openAll_cons (stroke : Stroke) (p : Pen) :
    openAll (stroke :: p) = stroke.opening ++ p.openAll :=
  List.flatMap_cons

theorem closeAll_cons (stroke : Stroke) (p : Pen) :
    closeAll (stroke :: p) = p.closeAll ++ stroke.closing := by
  rw [← List.singleton_append, closeAll_append]
  congr 1
  exact List.append_nil _

theorem aroundBreaks_eq_self {t : Text} (before after : Text) (h : lineFeed ∉ t) :
    aroundBreaks before after t = t := by
  fun_induction aroundBreaks before after t with
  | case1 => rfl
  | case2 => exact absurd (List.mem_singleton_self _) h
  | case3 u hu => rfl
  | case4 u v rest hbreak ih =>
    obtain ⟨-, rfl⟩ := hbreak
    exact absurd (List.mem_cons_of_mem u List.mem_cons_self) h
  | case5 v rest _ ih => exact absurd List.mem_cons_self h
  | case6 u v rest _ hu ih => rw [ih fun hrest => h (List.mem_cons_of_mem u hrest)]

/-- Opening the strokes takes a terminal from the first appearance to the second, and closing them
takes it back. -/
structure Spans (p : Pen) (a a' : Appearance) : Prop where
  opens : Takes p.openAll a a'
  closes : Takes p.closeAll a' a

section

variable {p q : Pen} {a a' a'' : Appearance} {shown : List (UInt16 × Appearance)}

theorem Spans.nil (a : Appearance) : Spans [] a a := ⟨.nil a, .nil a⟩

theorem Spans.append (hp : Spans p a a') (hq : Spans q a' a'') : Spans (p ++ q) a a'' where
  opens := by
    rw [openAll_append]
    exact hp.opens.append hq.opens
  closes := by
    rw [closeAll_append]
    exact hq.closes.append hp.closes

theorem spans_singleton {stroke : Stroke} (hopen : Takes stroke.opening a a')
    (hclose : Takes stroke.closing a' a) : Spans [stroke] a a' where
  opens := by
    rw [openAll_cons]
    exact hopen.append (.nil a')
  closes := by
    rw [closeAll_cons]
    exact (Takes.nil a').append hclose

/-- A pen without strokes spans nothing. -/
theorem Spans.eq_of_nil (h : Spans [] a a') : a = a' :=
  congrArg Terminal.appearance (h.opens [])

/-- **What a pen paints looks like what it spans**, and the terminal is back where it was. -/
theorem Spans.run_paint (h : Spans p a a') {t : Text} (hescape : escape ∉ t)
    (hfeed : lineFeed ∉ t) :
    Terminal.run ⟨.text, a, shown⟩ (p.paint .full t) =
      ⟨.text, a, shown ++ t.map fun u => (u, a')⟩ := by
  unfold paint
  by_cases hplain : ColorDepth.full = .none ∨ t = [] ∨ p = []
  · rw [if_pos hplain, Terminal.run_plain hescape]
    rcases hplain with hdepth | rfl | rfl
    · cases hdepth
    · rfl
    · rw [h.eq_of_nil]
  · dsimp only
    rw [if_neg hplain, if_neg hescape, aroundBreaks_eq_self _ _ hfeed, Terminal.run_append,
      Terminal.run_append, h.opens, Terminal.run_plain hescape, h.closes]

end

end Pen

/-! ### Colors -/

/-- Where the color of a ground goes. -/
def Ground.layer : Ground → Color.Layer
  | .fore => .foreground
  | .back => .background

/-- The basic color that a name stands for; `reset` stands for none. -/
def ColorName.basic? : ColorName → Option Nat
  | .reset => none
  | .black => some 0
  | .red => some 1
  | .green => some 2
  | .yellow => some 3
  | .blue => some 4
  | .magenta => some 5
  | .cyan => some 6
  | .lightGray => some 7
  | .gray => some 8
  | .lightRed => some 9
  | .lightGreen => some 10
  | .lightYellow => some 11
  | .lightBlue => some 12
  | .lightMagenta => some 13
  | .lightCyan => some 14
  | .white => some 15

/-- The code of a named color draws with the basic color of the name. -/
theorem ColorName.change_code {name : ColorName} {code : Nat} (h : name.code? = some code)
    (ground : Ground) :
    ∃ n, name.basic? = some n ∧ Appearance.extended? (code + ground.layer.shift) = none ∧
      ∀ a : Appearance, a.change (code + ground.layer.shift) =
        a.withColor ground (some (.basic n)) := by
  cases name with
  | reset => cases h
  | _ =>
    obtain rfl := Option.some.inj h
    cases ground <;> exact ⟨_, rfl, rfl, fun a => rfl⟩

theorem Ground.extended?_layer (ground : Ground) :
    Appearance.extended? (38 + ground.layer.shift) = some ground := by
  cases ground <;> rfl

theorem Appearance.select_palette {index : Nat} (h : index < 256) (ground : Ground)
    (a : Appearance) :
    a.select [38 + ground.layer.shift, 5, index] = a.withColor ground (some (.palette index)) := by
  simp [select, ground.extended?_layer, h]

theorem Appearance.select_direct {r g b : Nat} (hr : r < 256) (hg : g < 256) (hb : b < 256)
    (ground : Ground) (a : Appearance) :
    a.select [38 + ground.layer.shift, 2, r, g, b] =
      a.withColor ground (some (.direct r g b)) := by
  simp [select, ground.extended?_layer, hr, hg, hb]

theorem Number.toText_natCast {n : Nat} (h : n < 256) : Number.toText (n : Number) = ofNat n := by
  rw [Number.toText, Number.toChars_natCast (Nat.le_trans (Nat.le_of_lt h) (by decide))]
  rfl

namespace Color

/-- The numbers that a color is made of. -/
def numbers : Color → List Number
  | .named _ => []
  | .rgb r g b => [r, g, b]
  | .indexed index => [index]

/-- The numbers of a color are whole and from 0 to 255. -/
def IsBytes (color : Color) : Prop := ∀ x ∈ color.numbers, ∃ n : Nat, n < 256 ∧ x = (n : Number)

instance (color : Color) : Decidable color.IsBytes :=
  inferInstanceAs (Decidable (∀ x ∈ color.numbers, ∃ n : Nat, n < 256 ∧ x = (n : Number)))

/-- What a terminal draws a color with, if its numbers are natural ones; none for its own color. -/
def shown? : Color → Option TerminalColor
  | .named name => name.basic?.map .basic
  | .rgb r g b =>
    match r.toNat?, g.toNat?, b.toNat? with
    | some r, some g, some b => some (.direct r g b)
    | _, _, _ => none
  | .indexed index => index.toNat?.map .palette

theorem extended_natCast (layer : Layer) (kind : Nat) {ns : List Nat} (h : ∀ n ∈ ns, n < 256) :
    extended layer kind (ns.map fun (n : Nat) => (n : Number)) =
      joinWith (ofString ";") (((38 + layer.shift) :: kind :: ns).map ofNat) := by
  have hnumbers : (ns.map fun (n : Nat) => (n : Number)).map Number.toText = ns.map ofNat := by
    rw [List.map_map]
    exact List.map_congr_left fun n hn => Number.toText_natCast (h n hn)
  rw [extended, hnumbers]
  rfl

/-- A color either has no stroke and is the terminal's own, or its stroke has the numbers that draw
with it. -/
theorem stroke?_cases {color : Color} (h : color.IsBytes) (ground : Ground) :
    (color.stroke? .full ground.layer = none ∧ color.shown? = none) ∨
      ∃ n rest shown, color.stroke? .full ground.layer =
          some (.of (joinWith (ofString ";") ((n :: rest).map ofNat)) ground.layer.closing) ∧
        color.shown? = some shown ∧
        ∀ a : Appearance, a.select (n :: rest) = a.withColor ground (some shown) := by
  cases color with
  | named name =>
    rcases hcode : name.code? with - | code
    · have hname : name = .reset := by
        cases name <;> first | rfl | cases hcode
      exact .inl ⟨by rw [stroke?, hcode]; rfl, by rw [hname]; rfl⟩
    · obtain ⟨n, hn, hextended, hchange⟩ := ColorName.change_code hcode ground
      refine .inr ⟨code + ground.layer.shift, [], .basic n, ?_, ?_, ?_⟩
      · rw [stroke?, hcode, List.map_singleton, joinWith, List.intercalate_singleton]
        rfl
      · rw [shown?, hn]
        rfl
      · intro a
        rw [Appearance.select_singleton hextended, hchange]
  | rgb r g b =>
    obtain ⟨r, hr, rfl⟩ := h r (by simp [numbers])
    obtain ⟨g, hg, rfl⟩ := h g (by simp [numbers])
    obtain ⟨b, hb, rfl⟩ := h b (by simp [numbers])
    have hbytes : ∀ n ∈ [r, g, b], n < 256 := by simp [hr, hg, hb]
    refine .inr ⟨38 + ground.layer.shift, [2, r, g, b], .direct r g b, ?_, ?_, ?_⟩
    · rw [← extended_natCast ground.layer 2 hbytes]
      rfl
    · simp [shown?]
    · exact Appearance.select_direct hr hg hb ground
  | indexed index =>
    obtain ⟨n, hn, rfl⟩ := h index (by simp [numbers])
    refine .inr ⟨38 + ground.layer.shift, [5, n], .palette n, ?_, ?_, ?_⟩
    · rw [← extended_natCast ground.layer 5 (List.forall_mem_singleton.mpr hn)]
      rfl
    · simp [shown?]
    · exact Appearance.select_palette hn ground

/-- The closing code of a color gives the ground back to the terminal's own color. -/
theorem takes_closing (ground : Ground) (a : Appearance) :
    Takes (rendition (ofNat ground.layer.closing)) a (a.withColor ground none) := by
  cases ground with
  | fore => exact takes_number rfl a
  | back => exact takes_number rfl a

/-- **The stroke of a color spans**, where the ground is in the terminal's own color. -/
theorem spans_stroke? {color : Option Color} (h : ∀ c ∈ color, c.IsBytes) {ground : Ground}
    {a : Appearance} (ha : a.withColor ground none = a) :
    Pen.Spans (color.bind (stroke? .full ground.layer)).toList a
      (a.withColor ground (color.bind shown?)) := by
  rcases color with - | c
  · rw [Option.bind_none, Option.bind_none, ha]
    exact .nil a
  · rw [Option.bind_some, Option.bind_some]
    rcases stroke?_cases (h c rfl) ground with ⟨hstroke, hshown⟩ |
      ⟨n, rest, shown, hstroke, hshown, hselect⟩
    · rw [hstroke, hshown, ha]
      exact .nil a
    · rw [hstroke, hshown]
      have hback : (a.withColor ground (some shown)).withColor ground none = a := by
        cases ground <;> exact ha
      refine Pen.spans_singleton ?_ ?_
      · rw [← hselect]
        exact takes_numbers a n rest
      · have hclosing := takes_closing ground (a.withColor ground (some shown))
        rwa [hback] at hclosing

end Color

/-! ### Modifiers -/

namespace Appearance

theorem turnOn_turnOn (ms ms' : Finset Modifier) (a : Appearance) :
    (a.turnOn ms).turnOn ms' = a.turnOn (ms ∪ ms') :=
  congrArg (fun s => { a with modifiers := s }) (Finset.union_assoc _ _ _)

theorem turnOff_turnOff (ms ms' : Finset Modifier) (a : Appearance) :
    (a.turnOff ms).turnOff ms' = a.turnOff (ms ∪ ms') :=
  congrArg (fun s => { a with modifiers := s }) sdiff_sdiff_left

theorem turnOn_empty (a : Appearance) : a.turnOn ∅ = a :=
  congrArg (fun s => { a with modifiers := s }) (Finset.union_empty _)

theorem turnOff_empty (a : Appearance) : a.turnOff ∅ = a :=
  congrArg (fun s => { a with modifiers := s }) Finset.sdiff_empty

/-- Turning off more than was turned on leads back to an appearance without modifiers. -/
theorem turnOff_turnOn {ms ms' : Finset Modifier} (h : ms ⊆ ms') {a : Appearance}
    (ha : a.modifiers = ∅) : (a.turnOn ms).turnOff ms' = a := by
  have hmodifiers : (a.modifiers ∪ ms) \ ms' = a.modifiers := by
    rw [ha, Finset.empty_union, Finset.sdiff_eq_empty_iff_subset]
    exact h
  exact congrArg (fun s => { a with modifiers := s }) hmodifiers

end Appearance

/-- The codes of a modifier turn it on, and off with all that shares its closing code. -/
theorem takes_codes {m : Modifier} {codes : Nat × Nat} (h : m.codes? = some codes) :
    (∀ a, Takes (rendition (ofNat codes.1)) a (a.turnOn {m})) ∧
      ∃ ms : Finset Modifier, m ∈ ms ∧
        ∀ a, Takes (rendition (ofNat codes.2)) a (a.turnOff ms) := by
  cases m with
  | slowBlink | rapidBlink => cases h
  | bold | dim =>
    obtain rfl := Option.some.inj h
    exact ⟨fun a => takes_number rfl a, {.bold, .dim}, by decide, fun a => takes_number rfl a⟩
  | _ =>
    obtain rfl := Option.some.inj h
    exact ⟨fun a => takes_number rfl a, _, Finset.mem_singleton_self _,
      fun a => takes_number rfl a⟩

namespace Style

/-- The modifiers among some that a style turns on and that are painted. -/
def painted (s : Style) (ms : List Modifier) : Finset Modifier :=
  (ms.filter fun m => m.codes?.isSome && s.turnsOn m).toFinset

/-- A modifier is painted and has a stroke with its two codes, or it has no stroke. -/
theorem modifierStroke?_cases (s : Style) (m : Modifier) (ms : List Modifier) :
    (s.modifierStroke? m = none ∧ s.painted (m :: ms) = s.painted ms) ∨
      ∃ codes, m.codes? = some codes ∧
        s.modifierStroke? m = some (.of (ofNat codes.1) codes.2) ∧
        s.painted (m :: ms) = {m} ∪ s.painted ms := by
  rw [modifierStroke?, hasModifier_mask, painted, List.filter_cons]
  rcases s.turnsOn m with - | -
  · rw [Bool.and_false]
    exact .inl ⟨rfl, rfl⟩
  · rcases m.codes? with - | codes
    · exact .inl ⟨rfl, rfl⟩
    · refine .inr ⟨codes, rfl, rfl, ?_⟩
      rw [Bool.and_true, Option.isSome_some, if_pos rfl, List.toFinset_cons]
      rfl

/-- Opening the strokes of some modifiers turns on those that are painted. -/
theorem takes_openAll (s : Style) (ms : List Modifier) (a : Appearance) :
    Takes (Pen.openAll (ms.filterMap s.modifierStroke?)) a (a.turnOn (s.painted ms)) := by
  induction ms generalizing a with
  | nil =>
    rw [painted, List.filter_nil, List.toFinset_nil, Appearance.turnOn_empty]
    exact .nil a
  | cons m ms ih =>
    rcases s.modifierStroke?_cases m ms with
      ⟨hstroke, hpainted⟩ | ⟨codes, hcodes, hstroke, hpainted⟩
    · rw [List.filterMap_cons_none hstroke, hpainted]
      exact ih a
    · rw [List.filterMap_cons_some hstroke, Pen.openAll_cons, hpainted, ← Appearance.turnOn_turnOn]
      exact ((takes_codes hcodes).1 a).append (ih _)

/-- Closing them turns off at least those. -/
theorem exists_takes_closeAll (s : Style) (ms : List Modifier) :
    ∃ off, s.painted ms ⊆ off ∧
      ∀ a, Takes (Pen.closeAll (ms.filterMap s.modifierStroke?)) a (a.turnOff off) := by
  induction ms with
  | nil =>
    refine ⟨∅, subset_rfl, fun a => ?_⟩
    rw [Appearance.turnOff_empty]
    exact .nil a
  | cons m ms ih =>
    obtain ⟨off, hoff, hrest⟩ := ih
    rcases s.modifierStroke?_cases m ms with
      ⟨hstroke, hpainted⟩ | ⟨codes, hcodes, hstroke, hpainted⟩
    · rw [List.filterMap_cons_none hstroke, hpainted]
      exact ⟨off, hoff, hrest⟩
    · obtain ⟨off', hm, hclose⟩ := (takes_codes hcodes).2
      refine ⟨off ∪ off', ?_, fun a => ?_⟩
      · rw [hpainted, Finset.union_comm]
        exact Finset.union_subset_union hoff (Finset.singleton_subset_iff.mpr hm)
      · rw [List.filterMap_cons_some hstroke, Pen.closeAll_cons, ← Appearance.turnOff_turnOff]
        exact (hrest a).append (hclose _)

/-- **The strokes of modifiers together span**, where no modifier is on. -/
theorem spans_modifiers (s : Style) (ms : List Modifier) {a : Appearance} (ha : a.modifiers = ∅) :
    Pen.Spans (ms.filterMap s.modifierStroke?) a (a.turnOn (s.painted ms)) where
  opens := s.takes_openAll ms a
  closes := by
    obtain ⟨off, hoff, hclose⟩ := s.exists_takes_closeAll ms
    have hback := hclose (a.turnOn (s.painted ms))
    rwa [Appearance.turnOff_turnOn hoff ha] at hback

end Style

end EditorGutter
