import EditorGutter.Proofs.Paint.Strokes
import Mathlib.Data.Finset.Filter

/-!
A painted row shows its cells in their styles and leaves no trace.

A style says what its text looks like (`Style.appearance`): a ground whose color is absent or
`reset` is in the terminal's own color, no two other colors look alike (`Color.shown?_inj`), and a
modifier is on if its bit is set.  Blinking is the one thing that is not drawn.

The pen of a style spans the plain appearance and that of the style (`Style.spans_pen`), whatever
colors and modifiers are combined, so a painted cell leaves the terminal as it was.  By induction on
the cells, a terminal that reads a painted row shows every cell in its own appearance, and nothing
else.  The main result is `Row.paint_shows`.
-/
namespace EditorGutter

open Text

/-! ### Colors -/

namespace Color

/-- The color that looks like this; `reset` looks like the terminal's own color. -/
def ofShown : Option TerminalColor → Color
  | none => .named .reset
  | some (.basic n) => .named ((ColorName.all.find? fun c => c.basic? = some n).getD .reset)
  | some (.palette index) => .indexed index
  | some (.direct r g b) => .rgb r g b

theorem ofShown_shown? {color : Color} (h : color.IsBytes) : ofShown color.shown? = color := by
  cases color with
  | named name => cases name <;> rfl
  | rgb r g b =>
    obtain ⟨r, -, rfl⟩ := h r (by simp [numbers])
    obtain ⟨g, -, rfl⟩ := h g (by simp [numbers])
    obtain ⟨b, -, rfl⟩ := h b (by simp [numbers])
    simp only [shown?, Number.toNat?_natCast, ofShown]
  | indexed index =>
    obtain ⟨n, -, rfl⟩ := h index (by simp [numbers])
    simp only [shown?, Number.toNat?_natCast, Option.map_some, ofShown]

/-- **No two colors look alike.** -/
theorem shown?_inj {color color' : Color} (h : color.IsBytes) (h' : color'.IsBytes)
    (heq : color.shown? = color'.shown?) : color = color' := by
  rw [← ofShown_shown? h, heq, ofShown_shown? h']

end Color

/-! ### Styles -/

namespace Style

/-- The modifiers that are drawn: all but those that blink. -/
def drawnModifiers : Finset Modifier :=
  {.bold, .dim, .italic, .underlined, .reversed, .hidden, .crossedOut}

/-- What text in a style looks like. -/
def appearance (s : Style) : Appearance where
  fg := s.fg.bind Color.shown?
  bg := s.bg.bind Color.shown?
  modifiers := drawnModifiers.filter fun m => s.turnsOn m

/-- The colors of a style are made of bytes. -/
def IsBytes (s : Style) : Prop := (∀ c ∈ s.fg, c.IsBytes) ∧ ∀ c ∈ s.bg, c.IsBytes

instance (s : Style) : Decidable s.IsBytes := inferInstanceAs (Decidable (_ ∧ _))

theorem painted_all (s : Style) :
    s.painted Modifier.all = drawnModifiers.filter fun m => s.turnsOn m := by
  ext m
  have hmem : m ∈ Modifier.all := m.mem_all
  have hdrawn : m ∈ drawnModifiers ↔ m.codes?.isSome = true := by cases m <;> decide
  rw [painted, List.mem_toFinset, List.mem_filter, Finset.mem_filter, Bool.and_eq_true, hdrawn]
  exact and_iff_right hmem

/-- **The pen of a style spans** what is plain and what the style looks like. -/
theorem spans_pen {s : Style} (h : s.IsBytes) : (s.pen .full).Spans .plain s.appearance := by
  let front := Appearance.plain.withColor .fore (s.fg.bind Color.shown?)
  let colored := front.withColor .back (s.bg.bind Color.shown?)
  have hfront : Pen.Spans _ .plain front := Color.spans_stroke? h.1 rfl
  have hcolored : Pen.Spans _ front colored := Color.spans_stroke? h.2 rfl
  have hmodifiers := s.spans_modifiers Modifier.all (a := colored) rfl
  have happearance : colored.turnOn (s.painted Modifier.all) = s.appearance := by
    rw [painted_all, Appearance.turnOn]
    exact congrArg (fun ms => { s.appearance with modifiers := ms }) (Finset.empty_union _)
  rw [happearance] at hmodifiers
  exact (hfront.append hcolored).append hmodifiers

end Style

/-! ### Cells and rows -/

namespace Cell

/-- The units of a cell with what they look like. -/
def shown (c : Cell) : List (UInt16 × Appearance) := c.text.map fun u => (u, c.style.appearance)

/-- A cell that can be painted in one piece: its text has no code and no line break in it, and its
colors are made of bytes. -/
structure Paintable (c : Cell) : Prop where
  no_escape : escape ∉ c.text
  no_lineFeed : lineFeed ∉ c.text
  isBytes : c.style.IsBytes

instance (c : Cell) : Decidable c.Paintable :=
  decidable_of_iff (escape ∉ c.text ∧ lineFeed ∉ c.text ∧ c.style.IsBytes)
    ⟨fun ⟨h, h', h''⟩ => ⟨h, h', h''⟩, fun ⟨h, h', h''⟩ => ⟨h, h', h''⟩⟩

theorem map_fst_shown (c : Cell) : c.shown.map Prod.fst = c.text := by
  rw [shown, List.map_map]
  exact List.map_id _

theorem run_paint {c : Cell} (h : c.Paintable) (before : List (UInt16 × Appearance)) :
    Terminal.run ⟨.text, .plain, before⟩ (c.paint .full) = ⟨.text, .plain, before ++ c.shown⟩ :=
  (Style.spans_pen h.isBytes).run_paint h.no_escape h.no_lineFeed

/-- The painted cells of a row leave the terminal plain, and so the next cell starts as the first
one did. -/
theorem run_flatMap_paint {cells : List Cell} (h : ∀ c ∈ cells, c.Paintable)
    (before : List (UInt16 × Appearance)) :
    Terminal.run ⟨.text, .plain, before⟩ (cells.flatMap (paint .full)) =
      ⟨.text, .plain, before ++ cells.flatMap shown⟩ := by
  induction cells generalizing before with
  | nil => rw [List.flatMap_nil, List.flatMap_nil, List.append_nil]; rfl
  | cons c rest ih =>
    obtain ⟨hc, hrest⟩ := List.forall_mem_cons.mp h
    rw [List.flatMap_cons, List.flatMap_cons, Terminal.run_append, run_paint hc, ih hrest,
      List.append_assoc]

theorem paint_none (c : Cell) : c.paint .none = c.text := by
  rw [paint, Style.paint, Pen.paint, if_pos (Or.inl rfl)]

end Cell

/-- **Painted rows mean their styles and never bleed.**  Without colors a painted row is the texts
of its cells.  With them, a terminal that reads it from the start shows just these texts, every unit
of a cell in the appearance of the style of the cell, and ends as plain as it started; and no two
colors look alike. -/
theorem Row.paint_shows (r : Row) :
    r.paint .none = r.cells.flatMap Cell.text ∧
      ((∀ c ∈ r.cells, c.Paintable) →
        Terminal.start.run (r.paint .full) = ⟨.text, .plain, r.cells.flatMap Cell.shown⟩ ∧
          (r.cells.flatMap Cell.shown).map Prod.fst = r.cells.flatMap Cell.text) ∧
      ∀ color color' : Color, color.IsBytes → color'.IsBytes → color.shown? = color'.shown? →
        color = color' := by
  refine ⟨?_, fun h => ⟨?_, ?_⟩, fun color color' => Color.shown?_inj⟩
  · exact List.flatMap_congr fun c _ => c.paint_none
  · exact Cell.run_flatMap_paint h []
  · rw [List.map_flatMap]
    exact List.flatMap_congr fun c _ => c.map_fst_shown

/-- A row of three cells with a color of each kind and every modifier. -/
def Row.sample : Row where
  line := 0
  selected := false
  cells := [
    ⟨"diagnostics", "●", ⟨some (.rgb 255 200 0), some (.named .blue), 3, 0⟩⟩,
    ⟨"line-numbers", " 7", ⟨some (.indexed 202), none, 0, 0⟩⟩,
    ⟨"breakpoints", "▲", ⟨some (.named .reset), some (.named .lightGray), 0x1FC, 0⟩⟩]
  text := "● 7▲"
  style := ⟨some (.rgb 255 200 0), some (.named .blue), 3, 0⟩

theorem Row.paint_shows_sample :
    (∀ c ∈ sample.cells, c.Paintable) ∧
      Terminal.start.run (sample.paint .full) = ⟨.text, .plain, [
        (0x25CF, ⟨some (.direct 255 200 0), some (.basic 4), {.bold, .dim}⟩),
        (0x20, ⟨some (.palette 202), none, ∅⟩),
        (0x37, ⟨some (.palette 202), none, ∅⟩),
        (0x25B2, ⟨none, some (.basic 7),
          {.italic, .underlined, .reversed, .hidden, .crossedOut}⟩)]⟩ := by
  have hcells : ∀ c ∈ sample.cells, c.Paintable := by decide +kernel
  refine ⟨hcells, ?_⟩
  rw [((Row.paint_shows sample).2.1 hcells).1]
  decide +kernel

end EditorGutter
