import EditorGutter.Paint.Basic
import EditorGutter.Proofs.Number.DecimalDigits
import Mathlib.Data.Finset.SDiff

/-!
A terminal that understands graphic renditions.

It shows every unit outside of escape codes in the appearance that it is in at that moment.  The
code of a graphic rendition holds numbers, which change the appearance one after the other
(`Appearance.select`): each turns something on or off by itself, apart from those that an extended
color is made of.

The terminal reads its input unit by unit and knows nothing of how the input came about.  What it
makes of a text without codes is `run_plain`, and what it makes of a written code is
`run_rendition`.
-/
namespace EditorGutter

open Text

/-! ### Appearances -/

/-- A color that a terminal draws with in place of its own. -/
inductive TerminalColor where
  /-- One of the sixteen basic colors, the bright ones from 8 on. -/
  | basic (n : Nat)
  /-- An entry of the palette. -/
  | palette (index : Nat)
  /-- A mixture of red, green and blue. -/
  | direct (r g b : Nat)
  deriving DecidableEq, Repr

/-- What a color is drawn on: the text, or the place behind it. -/
inductive Ground where
  | fore
  | back
  deriving DecidableEq, Repr

/-- How a terminal draws: its colors, none for its own, and the modifiers that are on. -/
structure Appearance where
  fg : Option TerminalColor := none
  bg : Option TerminalColor := none
  modifiers : Finset Modifier := ∅
  deriving DecidableEq

namespace Appearance

/-- The appearance that a terminal starts in. -/
def plain : Appearance := {}

/-- The appearance with another color, or with the terminal's own. -/
def withColor (a : Appearance) : Ground → Option TerminalColor → Appearance
  | .fore, color => { a with fg := color }
  | .back, color => { a with bg := color }

/-- The appearance with more modifiers on. -/
def turnOn (ms : Finset Modifier) (a : Appearance) : Appearance :=
  { a with modifiers := a.modifiers ∪ ms }

/-- The appearance with some modifiers off. -/
def turnOff (ms : Finset Modifier) (a : Appearance) : Appearance :=
  { a with modifiers := a.modifiers \ ms }

/-- The appearance changed by a number that stands by itself; an unknown one changes nothing. -/
def change (a : Appearance) : Nat → Appearance
  | 0 => plain
  | 1 => a.turnOn {.bold}
  | 2 => a.turnOn {.dim}
  | 3 => a.turnOn {.italic}
  | 4 => a.turnOn {.underlined}
  | 5 => a.turnOn {.slowBlink}
  | 6 => a.turnOn {.rapidBlink}
  | 7 => a.turnOn {.reversed}
  | 8 => a.turnOn {.hidden}
  | 9 => a.turnOn {.crossedOut}
  | 22 => a.turnOff {.bold, .dim}
  | 23 => a.turnOff {.italic}
  | 24 => a.turnOff {.underlined}
  | 25 => a.turnOff {.slowBlink, .rapidBlink}
  | 27 => a.turnOff {.reversed}
  | 28 => a.turnOff {.hidden}
  | 29 => a.turnOff {.crossedOut}
  | 39 => a.withColor .fore none
  | 49 => a.withColor .back none
  | n =>
    if 30 ≤ n ∧ n < 38 then a.withColor .fore (some (.basic (n - 30)))
    else if 40 ≤ n ∧ n < 48 then a.withColor .back (some (.basic (n - 40)))
    else if 90 ≤ n ∧ n < 98 then a.withColor .fore (some (.basic (n - 90 + 8)))
    else if 100 ≤ n ∧ n < 108 then a.withColor .back (some (.basic (n - 100 + 8)))
    else a

/-- What the numbers of an extended color start with. -/
def extended? : Nat → Option Ground
  | 38 => some .fore
  | 48 => some .back
  | _ => none

/-- The appearance changed by the numbers of a code.  The numbers of an extended color have to be
bytes, or else it changes nothing; the rest of the code is dropped where they are not all there. -/
def select (a : Appearance) : List Nat → Appearance
  | [] => a
  | n :: rest =>
    match extended? n, rest with
    | none, rest => (a.change n).select rest
    | some ground, 5 :: index :: rest =>
      (if index < 256 then a.withColor ground (some (.palette index)) else a).select rest
    | some ground, 2 :: r :: g :: b :: rest =>
      (if r < 256 ∧ g < 256 ∧ b < 256 then a.withColor ground (some (.direct r g b))
        else a).select rest
    | some _, _ => a

theorem select_singleton {n : Nat} (h : extended? n = none) (a : Appearance) :
    a.select [n] = a.change n := by
  rw [select, select]
  exact h

end Appearance

/-! ### Reading -/

/-- Where a terminal is in its input. -/
inductive TerminalMode where
  /-- Outside of any code. -/
  | text
  /-- After the escape character. -/
  | escaped
  /-- Inside a code, after some numbers and with the digits of another one read. -/
  | numbers (before : List Nat) (current : Nat)
  deriving DecidableEq, Repr

/-- A terminal, with the units it has shown and what they look like. -/
structure Terminal where
  mode : TerminalMode
  appearance : Appearance
  shown : List (UInt16 × Appearance)
  deriving DecidableEq

namespace Terminal

/-- A terminal that has shown nothing. -/
def start : Terminal := ⟨.text, .plain, []⟩

/-- The terminal after one more unit.  Numbers between `[` and `m` are a graphic rendition; a unit
that does not belong to one ends the code without any effect. -/
def step (s : Terminal) (u : UInt16) : Terminal :=
  match s.mode with
  | .text =>
    if u = escape then { s with mode := .escaped }
    else { s with shown := s.shown ++ [(u, s.appearance)] }
  | .escaped => { s with mode := if u = 0x5B then .numbers [] 0 else .text }
  | .numbers before current =>
    match Record.digitValue? u with
    | some d => { s with mode := .numbers before (current * 10 + d) }
    | none =>
      if u = 0x3B then { s with mode := .numbers (before ++ [current]) 0 }
      else if u = 0x6D then
        { s with mode := .text, appearance := s.appearance.select (before ++ [current]) }
      else { s with mode := .text }

/-- The terminal after a text. -/
def run (s : Terminal) (t : Text) : Terminal := t.foldl step s

section

variable {a : Appearance} {shown : List (UInt16 × Appearance)}

theorem run_append (s : Terminal) (t t' : Text) : s.run (t ++ t') = (s.run t).run t' :=
  List.foldl_append

theorem run_cons (s : Terminal) (u : UInt16) (t : Text) : s.run (u :: t) = (s.step u).run t := rfl

/-- A text without codes is shown in the appearance that the terminal is in. -/
theorem run_plain {t : Text} (h : escape ∉ t) :
    run ⟨.text, a, shown⟩ t = ⟨.text, a, shown ++ t.map fun u => (u, a)⟩ := by
  induction t generalizing shown with
  | nil => rw [List.map_nil, List.append_nil]; rfl
  | cons u rest ih =>
    have hu : u ≠ escape := fun hu => h (hu ▸ List.mem_cons_self)
    have hstep : step ⟨.text, a, shown⟩ u = ⟨.text, a, shown ++ [(u, a)]⟩ := if_neg hu
    rw [run_cons, hstep, ih fun hrest => h (List.mem_cons_of_mem u hrest), List.append_assoc]
    rfl

/-! ### Reading a code -/

/-- Digits continue the number that they stand in. -/
theorem run_digits {before : List Nat} {m n : Nat} {t : Text}
    (h : Record.continueDecimal? m t = some n) :
    run ⟨.numbers before m, a, shown⟩ t = ⟨.numbers before n, a, shown⟩ := by
  induction t generalizing m with
  | nil =>
    obtain rfl := Option.some.inj h
    rfl
  | cons u rest ih =>
    rw [Record.continueDecimal?] at h
    split at h
    · next d hd =>
      have hstep : step ⟨.numbers before m, a, shown⟩ u =
          ⟨.numbers before (m * 10 + d), a, shown⟩ := by
        simp only [step, hd]
      rw [run_cons, hstep, ih h]
    · cases h

theorem run_ofNat (before : List Nat) (n : Nat) :
    run ⟨.numbers before 0, a, shown⟩ (ofNat n) = ⟨.numbers before n, a, shown⟩ :=
  run_digits (Record.continueDecimal?_ofNat n)

/-- The numbers of a code are read back, and the code changes the appearance by all of them. -/
theorem run_numbers (before : List Nat) (n : Nat) (rest : List Nat) :
    run ⟨.numbers before 0, a, shown⟩
        (joinWith (ofString ";") ((n :: rest).map ofNat) ++ ofString "m") =
      ⟨.text, a.select (before ++ n :: rest), shown⟩ := by
  induction rest generalizing before n with
  | nil =>
    rw [List.map_singleton, joinWith, List.intercalate_singleton, run_append, run_ofNat]
    rfl
  | cons n' rest ih =>
    have hjoin : joinWith (ofString ";") ((n :: n' :: rest).map ofNat) =
        ofNat n ++ (ofString ";" ++ joinWith (ofString ";") ((n' :: rest).map ofNat)) := by
      rw [List.map_cons, List.map_cons, joinWith, List.intercalate_cons_cons, List.append_assoc]
      rfl
    have hsemicolon : run ⟨.numbers before n, a, shown⟩ (ofString ";") =
        ⟨.numbers (before ++ [n]) 0, a, shown⟩ := rfl
    rw [hjoin, List.append_assoc, run_append, run_ofNat, List.append_assoc, run_append, hsemicolon,
      ih, List.append_assoc]
    rfl

/-- **A code does what its numbers say**, and shows nothing. -/
theorem run_rendition (n : Nat) (rest : List Nat) :
    run ⟨.text, a, shown⟩ (rendition (joinWith (ofString ";") ((n :: rest).map ofNat))) =
      ⟨.text, a.select (n :: rest), shown⟩ := by
  have hopen : run ⟨.text, a, shown⟩ ([escape] ++ ofString "[") = ⟨.numbers [] 0, a, shown⟩ := rfl
  rw [rendition, List.append_assoc, run_append, hopen, run_numbers, List.nil_append]

end

end Terminal

end EditorGutter
