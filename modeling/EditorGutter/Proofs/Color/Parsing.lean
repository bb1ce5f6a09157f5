import EditorGutter.Proofs.Color.Written
import EditorGutter.Proofs.Results
import EditorGutter.Proofs.Value.Enumeration
import Mathlib.Logic.Relation

/-!
Which texts are read as colors, and as which.

Blanks around it aside, a text is read as the color that it is written for, and otherwise as the
color that its value in the palette is written for (`parse_eq_ok`).  A value is not looked up again,
so a name whose value is another name is refused (`exists_fault_of_refers`), and so is one that its
references lead back to (`exists_refers_of_transGen`).

A color that was read can be written, and is read back from that whatever the palette
(`parse_around`).  The main result is `parse_normalForm`.
-/
namespace EditorGutter

open Text

namespace Color

variable {palette : List (Text × Text)} {resolve resolve' : Text → Option (Except ThemeFault Color)}
variable {text value digits target t before after : Text} {c : Color}

/-! ### One level of reading -/

theorem parseWith_of_hex (h : text.trim = numberSign :: digits) :
    parseWith resolve text = (ofHexDigits? digits).elim (.error (.malformedHex text)) .ok := by
  unfold parseWith
  simp only [h, if_true]
  rcases ofHexDigits? digits with - | color
  · rfl
  · rfl

theorem parseWith_of_head? (h : text.trim.head? ≠ some numberSign) :
    parseWith resolve text = parseWith.named resolve text text.trim := by
  unfold parseWith
  generalize text.trim = value at h ⊢
  rcases value with - | ⟨u, rest⟩
  · rfl
  · have hu : u ≠ numberSign := fun hu => h (congrArg some hu)
    exact if_neg hu

theorem named_of_ofText? {name : ColorName} (h : ColorName.ofText? value = some name) :
    parseWith.named resolve text value = .ok (.named name) := by
  rw [parseWith.named, h]

theorem named_of_not_named (h : ¬ ColorName.Named value) :
    parseWith.named resolve text value = (resolve value).getD (.error (.unknownColor text)) := by
  rw [parseWith.named, ColorName.ofText?_eq_none.mpr h]
  rcases resolve value with - | result
  · rfl
  · rfl

/-- Only what is looked up at the text itself matters. -/
theorem parseWith_congr (h : resolve text.trim = resolve' text.trim) :
    parseWith resolve text = parseWith resolve' text := by
  by_cases hhead : text.trim.head? = some numberSign
  · obtain ⟨digits, hdigits⟩ := List.head?_eq_some_iff.mp hhead
    rw [parseWith_of_hex hdigits, parseWith_of_hex hdigits]
  · rw [parseWith_of_head? hhead, parseWith_of_head? hhead, parseWith.named, parseWith.named, h]

theorem named_eq_ok (h : value.head? ≠ some numberSign) :
    parseWith.named resolve text value = .ok c ↔
      Written c value ∨ ¬ ColorName.Named value ∧ resolve value = some (.ok c) := by
  rw [written_iff_of_head? h]
  by_cases hnamed : ColorName.Named value
  · obtain ⟨name, hname⟩ := hnamed
    have hread := ColorName.ofText?_eq_some.mpr hname
    rw [named_of_ofText? hread, or_iff_left fun h => h.1 ⟨name, hname⟩, Except.ok.injEq]
    constructor
    · rintro rfl
      exact ⟨name, rfl, hname⟩
    · rintro ⟨name', rfl, hname'⟩
      rw [Option.some.inj (hread.symm.trans (ColorName.ofText?_eq_some.mpr hname'))]
  · -- no name is written so, and the text is looked up
    rw [named_of_not_named hnamed, or_iff_right fun ⟨name, _, hname⟩ => hnamed ⟨name, hname⟩,
      and_iff_right hnamed]
    rcases resolve value with - | result
    · exact ⟨nofun, nofun⟩
    · exact Option.some_inj.symm

/-- **A text is read as the color that is written there, or as what is looked up.** -/
theorem parseWith_eq_ok : parseWith resolve text = .ok c ↔
    Written c text.trim ∨ text.trim.head? ≠ some numberSign ∧ ¬ ColorName.Named text.trim ∧
      resolve text.trim = some (.ok c) := by
  by_cases hhead : text.trim.head? = some numberSign
  · obtain ⟨digits, hdigits⟩ := List.head?_eq_some_iff.mp hhead
    rw [parseWith_of_hex hdigits, or_iff_left fun h => h.1 hhead, hdigits, ← ofHexDigits?_eq_some]
    rcases ofHexDigits? digits with - | color
    · exact ⟨nofun, nofun⟩
    · rw [Option.elim_some, Except.ok.injEq, Option.some.injEq]
  · rw [parseWith_of_head? hhead, named_eq_ok hhead, and_iff_right hhead]

theorem parsePlain_eq_ok : parsePlain text = .ok c ↔ Written c text.trim := by
  rw [parsePlain, parseWith_eq_ok]
  exact or_iff_left fun h => nomatch h.2.2

/-- A palette without names is no palette. -/
theorem parse_nil (text : Text) : parse [] text = parsePlain text := parseWith_congr rfl

/-- **A text is read as the color that it is written for, or as the one that its value in the
palette is written for.** -/
theorem parse_eq_ok : parse palette text = .ok c ↔
    Written c text.trim ∨ text.trim.head? ≠ some numberSign ∧ ¬ ColorName.Named text.trim ∧
      ∃ value, Record.find? text.trim palette = some value ∧ Written c value.trim := by
  rw [parse, parseWith_eq_ok]
  simp only [Option.map_eq_some_iff, parsePlain_eq_ok]

/-- A color that was read is one that can be written. -/
theorem exists_written_of_parse (h : parse palette text = .ok c) : ∃ t, Written c t := by
  rcases parse_eq_ok.mp h with hwritten | ⟨-, -, value, -, hwritten⟩
  · exact ⟨_, hwritten⟩
  · exact ⟨_, hwritten⟩

/-- **What is written for a color is read as that color**, with any blanks around it and whatever
the palette. -/
theorem parse_around (h : Written c t) (hbefore : Blank before) (hafter : Blank after)
    (palette : List (Text × Text)) : parse palette (before ++ (t ++ after)) = .ok c := by
  refine parse_eq_ok.mpr (.inl ?_)
  rwa [trim_around h.blankless hbefore hafter]

/-- The texts that are read are those that stand for a color by themselves, and the names of the
palette whose values do. -/
theorem exists_parse_iff : (∃ c, parse palette text = .ok c) ↔
    IsHexColor text.trim ∨ ColorName.Named text.trim ∨
      ∃ value, text.trim.head? ≠ some numberSign ∧
        Record.find? text.trim palette = some value ∧ ∃ c, parse [] value = .ok c := by
  simp only [parse_eq_ok, parse_nil, parsePlain_eq_ok]
  rw [exists_or, exists_written_iff, IsColorText, or_assoc]
  refine or_congr_right ?_
  constructor
  · rintro (hnamed | ⟨c, hhead, -, value, hfind, hwritten⟩)
    · exact .inl hnamed
    · exact .inr ⟨value, hhead, hfind, c, hwritten⟩
  · rintro (hnamed | ⟨value, hhead, hfind, c, hwritten⟩)
    · exact .inl hnamed
    · by_cases hnamed : ColorName.Named text.trim
      · exact .inl hnamed
      · exact .inr ⟨c, hhead, hnamed, value, hfind, hwritten⟩

/-! ### References -/

/-- A name of a palette refers to another text: it does not stand for a color by itself, and its
value is the other text, blanks around it aside. -/
structure Refers (palette : List (Text × Text)) (name target : Text) : Prop where
  not_color : ¬ IsColorText name
  value : ∃ value, Record.find? name palette = some value ∧ value.trim = target

/-- A name is only read as what is written for the text that it refers to. -/
theorem written_of_refers (href : Refers palette text.trim target)
    (h : parse palette text = .ok c) : Written c target := by
  obtain ⟨value, hfind, rfl⟩ := href.value
  rcases parse_eq_ok.mp h with hwritten | ⟨-, -, value', hfind', hwritten⟩
  · exact absurd (exists_written_iff.mp ⟨c, hwritten⟩) href.not_color
  · rwa [Option.some.inj (hfind.symm.trans hfind')]

/-- **References are followed one level only.**  A name that refers to anything but a color is
refused, be that another name or not. -/
theorem exists_fault_of_refers (href : Refers palette text.trim target) (h : ¬ IsColorText target) :
    ∃ fault, parse palette text = .error fault := by
  refine exists_eq_error fun c hc => ?_
  exact h (exists_written_iff.mp ⟨c, written_of_refers href hc⟩)

/-- A name that its references lead back to refers to a name, and not to a color. -/
theorem exists_refers_of_transGen {name : Text} (h : Relation.TransGen (Refers palette) name name) :
    ∃ target, Refers palette name target ∧ ¬ IsColorText target := by
  obtain ⟨target, href, hback⟩ := Relation.TransGen.head'_iff.mp h
  rcases hback.cases_head with rfl | ⟨next, hnext, -⟩
  · exact ⟨_, href, href.not_color⟩
  · exact ⟨target, href, hnext.not_color⟩

/-- The palette does not matter to a text that is none of its names. -/
theorem parse_of_notMem (h : text.trim ∉ palette.map Prod.fst) :
    parse palette text = parse [] text := by
  have hnone : Record.find? text.trim palette = none := by
    rwa [← Record.isSome_find?, Option.not_isSome_iff_eq_none] at h
  refine parseWith_congr ?_
  rw [hnone]
  rfl

theorem exists_fault_of_notMem (h : text.trim ∉ palette.map Prod.fst)
    (hnot : ¬ IsColorText text.trim) : ∃ fault, parse palette text = .error fault := by
  refine exists_eq_error fun c hc => ?_
  rw [parse_of_notMem h, parse_nil, parsePlain_eq_ok] at hc
  exact hnot (exists_written_iff.mp ⟨c, hc⟩)

/-! ### Normal forms -/

/-- **Reading a color gives a normal form.**  What is read is a named color or one with channels
below 256; it can be written, and whatever is written for it is read as it again, with blanks around
it and under any palette.  Blanks around it aside, a text is read exactly if it is a number sign
with six digits, a color name, or a name of the palette that starts with no number sign and whose
value is read without a palette.  So a name that refers to anything but a color is refused, in
particular one that its references lead back to.  A text that is no name of the palette is read as
without one, and is refused if it does not stand for a color by itself. -/
theorem parse_normalForm (palette : List (Text × Text)) (text : Text) :
    (∀ c, parse palette text = .ok c →
      ((∃ name, c = .named name) ∨
        ∃ r g b : Nat, r < 256 ∧ g < 256 ∧ b < 256 ∧ c = .rgb r g b) ∧
      (∃ t, Written c t) ∧
      ∀ t before after, Written c t → Blank before → Blank after →
        ∀ palette', parse palette' (before ++ (t ++ after)) = .ok c) ∧
    ((∃ c, parse palette text = .ok c) ↔
      IsHexColor text.trim ∨ ColorName.Named text.trim ∨
        ∃ value, text.trim.head? ≠ some numberSign ∧
          Record.find? text.trim palette = some value ∧ ∃ c, parse [] value = .ok c) ∧
    (∀ target, Refers palette text.trim target → ¬ IsColorText target →
      ∃ fault, parse palette text = .error fault) ∧
    (Relation.TransGen (Refers palette) text.trim text.trim →
      ∃ fault, parse palette text = .error fault) ∧
    (text.trim ∉ palette.map Prod.fst → parse palette text = parse [] text ∧
      (¬ IsColorText text.trim → ∃ fault, parse palette text = .error fault)) := by
  refine ⟨?read, exists_parse_iff, fun _ => exists_fault_of_refers, ?cyclic, ?others⟩
  case read =>
    intro c hc
    obtain ⟨t, ht⟩ := exists_written_of_parse hc
    exact ⟨ht.named_or_rgb, ⟨t, ht⟩,
      fun t before after ht hbefore hafter => parse_around ht hbefore hafter⟩
  case cyclic =>
    intro hcycle
    obtain ⟨target, href, hnot⟩ := exists_refers_of_transGen hcycle
    exact exists_fault_of_refers href hnot
  case others =>
    intro hname
    exact ⟨parse_of_notMem hname, exists_fault_of_notMem hname⟩

/-- A palette with a color, a color name, a name with a number sign, a reference to a reference and
two references to one another. -/
def tangledPalette : List (Text × Text) :=
  [(ofString "accent", ofString " #0A0b0C "), (ofString "red", ofString "#000000"),
   (ofString "#abc", ofString "red"), (ofString "alias", ofString "accent"),
   (ofString "ping", ofString " pong"), (ofString "pong", ofString "ping")]

/-- The color in the palette is read back from other digits for it, even under a palette that has
these as a name.  A name with a number sign is not looked up; a reference to a reference is refused,
and so are one that leads back to itself and a name that the palette lacks. -/
theorem parse_normalForm_tangled :
    parse tangledPalette (ofString "\taccent") = .ok (.rgb 10 11 12) ∧
    parse [(ofString "#0a0B0c", ofString "red")]
      (ofString " " ++ (ofString "#0a0B0c" ++ ofString "\n")) = .ok (.rgb 10 11 12) ∧
    (¬ ∃ c, parse tangledPalette (ofString "#abc") = .ok c) ∧
    (∃ fault, parse tangledPalette (ofString "alias") = .error fault) ∧
    (∃ fault, parse tangledPalette (ofString "ping") = .error fault) ∧
    (∃ fault, parse tangledPalette (ofString "toString") = .error fault) := by
  obtain ⟨hread, -, -, -, -⟩ := parse_normalForm tangledPalette (ofString "\taccent")
  obtain ⟨-, haccepted, -, -, -⟩ := parse_normalForm tangledPalette (ofString "#abc")
  obtain ⟨-, -, hlevel, -, -⟩ := parse_normalForm tangledPalette (ofString "alias")
  obtain ⟨-, -, -, hcyclic, -⟩ := parse_normalForm tangledPalette (ofString "ping")
  obtain ⟨-, -, -, -, hothers⟩ := parse_normalForm tangledPalette (ofString "toString")
  have haccent : parse tangledPalette (ofString "\taccent") = .ok (.rgb 10 11 12) := rfl
  have hdigits : Written (.rgb 10 11 12) (ofString "#0a0B0c") := ofHexDigits?_eq_some.mp rfl
  have halias : Refers tangledPalette (ofString "alias").trim (ofString "accent") :=
    ⟨by decide +kernel, ofString "accent", by decide +kernel, by decide +kernel⟩
  have hping : Refers tangledPalette (ofString "ping").trim (ofString "pong") :=
    ⟨by decide +kernel, ofString " pong", by decide +kernel, by decide +kernel⟩
  have hpong : Refers tangledPalette (ofString "pong") (ofString "ping").trim :=
    ⟨by decide +kernel, ofString "ping", by decide +kernel, by decide +kernel⟩
  refine ⟨haccent, ?_, ?_, ?_, ?_, ?_⟩
  · obtain ⟨-, -, haround⟩ := hread _ haccent
    exact haround _ _ _ hdigits (by decide) (by decide) _
  · rw [haccepted]
    rintro (hhex | hnamed | ⟨value, hhead, -⟩)
    · exact absurd hhex (by decide +kernel)
    · exact absurd hnamed (by decide +kernel)
    · exact absurd rfl hhead
  · exact hlevel _ halias (by decide +kernel)
  · exact hcyclic (.tail (.single hping) hpong)
  · exact (hothers (by decide +kernel)).2 (by decide +kernel)

end Color

end EditorGutter
