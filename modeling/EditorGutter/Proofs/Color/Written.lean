import EditorGutter.Color
import EditorGutter.Proofs.Text.Spelling
import EditorGutter.Proofs.Text.Trimming

/-!
How colors are written.

A hexadecimal digit has the value of its place among the digits (`HexDigit`), two of them write a
number below 256 (`Octet`), and a color is written as its name, or as a number sign and the digits
of its three channels (`Written`).  Reading is the inverse of this, level by level
(`hexValue?_eq_some`, `hexByte?_eq_some`, `ofHexDigits?_eq_some`).

What is written for a color can be told without reading it: a number sign with exactly six digits,
or a color name (`IsColorText`, `exists_written_iff`).
-/
namespace EditorGutter

open Text

/-! ### Names -/

namespace ColorName

variable {t : Text} {c : ColorName}

/-- A text is one of the color names. -/
def Named (t : Text) : Prop := ∃ c : ColorName, ofString c.name = t

instance (t : Text) : Decidable (Named t) :=
  decidable_of_iff (∃ c ∈ all, ofString c.name = t)
    ⟨fun ⟨c, _, hc⟩ => ⟨c, hc⟩, fun ⟨c, hc⟩ => ⟨c, mem_all c, hc⟩⟩

theorem ofText?_text (c : ColorName) : ofText? (ofString c.name) = some c := by
  cases c <;> decide

theorem ofText?_eq_some : ofText? t = some c ↔ ofString c.name = t :=
  find?_spelled_eq_some ofText?_text

theorem ofText?_eq_none : ofText? t = none ↔ ¬ Named t :=
  find?_spelled_eq_none mem_all

end ColorName

namespace Color

variable {t : Text} {c : Color}

/-! ### Digits -/

/-- The hexadecimal digits in the order of their values, with small letters and with capitals. -/
def hexAlphabets : List Text := [ofString "0123456789abcdef", ofString "0123456789ABCDEF"]

/-- A unit is the hexadecimal digit with a value, in either case. -/
def HexDigit (d : Nat) (u : UInt16) : Prop := ∃ digits ∈ hexAlphabets, digits[d]? = some u

/-- A unit is a hexadecimal digit of either case. -/
def IsHexDigit (u : UInt16) : Prop := ∃ digits ∈ hexAlphabets, u ∈ digits

instance (d : Nat) (u : UInt16) : Decidable (HexDigit d u) :=
  inferInstanceAs (Decidable (∃ digits ∈ hexAlphabets, _))

instance (u : UInt16) : Decidable (IsHexDigit u) :=
  inferInstanceAs (Decidable (∃ digits ∈ hexAlphabets, _))

theorem isHexDigit_iff {u : UInt16} : IsHexDigit u ↔ ∃ d, HexDigit d u := by
  constructor
  · rintro ⟨digits, hdigits, hu⟩
    obtain ⟨d, hd⟩ := List.mem_iff_getElem?.mp hu
    exact ⟨d, digits, hdigits, hd⟩
  · rintro ⟨d, digits, hdigits, hd⟩
    exact ⟨digits, hdigits, List.mem_of_getElem? hd⟩

theorem HexDigit.lt {d : Nat} {u : UInt16} (h : HexDigit d u) : d < 16 := by
  obtain ⟨digits, hdigits, hu⟩ := h
  have hlength : ∀ digits ∈ hexAlphabets, digits.length = 16 := by decide
  obtain ⟨hd, -⟩ := List.getElem?_eq_some_iff.mp hu
  rwa [hlength digits hdigits] at hd

/-- All digits that are read stand below the first unit after the small letters. -/
theorem lt_of_hexValue? {u : UInt16} {d : Nat} (h : hexValue? u = some d) : u.toNat < 0x67 := by
  unfold hexValue? at h
  simp only [Bool.and_eq_true, decide_eq_true_iff, UInt16.le_iff_toNat_le] at h
  split at h
  · next hrange => exact Nat.lt_of_le_of_lt hrange.2 (by decide)
  · split at h
    · next hrange => exact Nat.lt_of_le_of_lt hrange.2 (by decide)
    · split at h
      · next hrange => exact Nat.lt_of_le_of_lt hrange.2 (by decide)
      · cases h

/-- **A digit is read as its value.** -/
theorem hexValue?_eq_some {u : UInt16} {d : Nat} : hexValue? u = some d ↔ HexDigit d u := by
  constructor
  · intro h
    -- so there are few units to look at
    have hall : ∀ n ∈ List.range 0x67, ∀ d ∈ hexValue? (UInt16.ofNat n),
        HexDigit d (UInt16.ofNat n) := by
      decide +kernel
    have hu := hall u.toNat (List.mem_range.mpr (lt_of_hexValue? h))
    rw [UInt16.ofNat_toNat] at hu
    exact hu d h
  · intro h
    have hall : ∀ digits ∈ hexAlphabets, ∀ d ∈ List.range 16,
        digits[d]?.bind hexValue? = some d := by
      decide +kernel
    have hd := h.lt
    obtain ⟨digits, hdigits, hu⟩ := h
    have hread := hall digits hdigits d (List.mem_range.mpr hd)
    rwa [hu] at hread

/-! ### Channels -/

/-- A number is written with two hexadecimal digits, first the one for its sixteens. -/
inductive Octet : Nat → Text → Prop
  | pair {h l : Nat} {high low : UInt16} (hhigh : HexDigit h high) (hlow : HexDigit l low) :
    Octet (h * 16 + l) [high, low]

theorem Octet.lt {n : Nat} (h : Octet n t) : n < 256 := by
  cases h with
  | pair hhigh hlow =>
    have := hhigh.lt
    have := hlow.lt
    omega

theorem Octet.exists_pair {n : Nat} (h : Octet n t) :
    ∃ high low, t = [high, low] ∧ IsHexDigit high ∧ IsHexDigit low := by
  cases h with
  | pair hhigh hlow =>
    exact ⟨_, _, rfl, isHexDigit_iff.mpr ⟨_, hhigh⟩, isHexDigit_iff.mpr ⟨_, hlow⟩⟩

/-- Any two digits write a number. -/
theorem exists_octet_pair {high low : UInt16} (hhigh : IsHexDigit high) (hlow : IsHexDigit low) :
    ∃ n, Octet n [high, low] := by
  obtain ⟨h, hhigh⟩ := isHexDigit_iff.mp hhigh
  obtain ⟨l, hlow⟩ := isHexDigit_iff.mp hlow
  exact ⟨h * 16 + l, .pair hhigh hlow⟩

theorem hexByte?_eq_some {high low : UInt16} {n : Nat} :
    hexByte? high low = some n ↔ Octet n [high, low] := by
  show ((hexValue? high).bind fun h => (hexValue? low).bind fun l => some (h * 16 + l)) = some n ↔ _
  simp only [Option.bind_eq_some_iff, hexValue?_eq_some]
  constructor
  · rintro ⟨h, hhigh, l, hlow, hn⟩
    exact Option.some.inj hn ▸ .pair hhigh hlow
  · rintro ⟨hhigh, hlow⟩
    exact ⟨_, hhigh, _, hlow, rfl⟩

/-! ### Colors -/

/-- A color is written as its name, or as a number sign and two digits for each channel. -/
inductive Written : Color → Text → Prop
  | named (name : ColorName) : Written (.named name) (ofString name.name)
  | rgb {r g b : Nat} {tr tg tb : Text} (red : Octet r tr) (green : Octet g tg)
    (blue : Octet b tb) : Written (.rgb r g b) (numberSign :: (tr ++ (tg ++ tb)))

/-- A text is a number sign with exactly six hexadecimal digits. -/
def IsHexColor (t : Text) : Prop :=
  ∃ digits : Text, t = numberSign :: digits ∧ digits.length = 6 ∧ ∀ u ∈ digits, IsHexDigit u

instance (t : Text) : Decidable (IsHexColor t) :=
  match t with
  | [] => .isFalse nofun
  | u :: digits =>
    have : Decidable (∀ u ∈ digits, IsHexDigit u) := List.decidableBAll IsHexDigit digits
    decidable_of_iff (u = numberSign ∧ digits.length = 6 ∧ ∀ u ∈ digits, IsHexDigit u)
      ⟨fun ⟨hu, h⟩ => ⟨digits, by rw [hu], h⟩, fun ⟨_, ht, h⟩ => by cases ht; exact ⟨rfl, h⟩⟩

/-- A text stands for a color by itself: a number sign with six digits, or a color name. -/
def IsColorText (t : Text) : Prop := IsHexColor t ∨ ColorName.Named t

instance (t : Text) : Decidable (IsColorText t) :=
  inferInstanceAs (Decidable (IsHexColor t ∨ ColorName.Named t))

theorem head?_name_ne (name : ColorName) : (ofString name.name).head? ≠ some numberSign := by
  cases name <;> decide

theorem written_iff_of_head? (h : t.head? ≠ some numberSign) :
    Written c t ↔ ∃ name : ColorName, c = .named name ∧ ofString name.name = t := by
  constructor
  · intro hwritten
    cases hwritten with
    | named name => exact ⟨name, rfl, rfl⟩
    | rgb red green blue => exact absurd rfl h
  · rintro ⟨name, rfl, rfl⟩
    exact .named name

theorem written_hex_iff {digits : Text} : Written c (numberSign :: digits) ↔
    ∃ (r g b : Nat) (tr tg tb : Text), Octet r tr ∧ Octet g tg ∧ Octet b tb ∧
      digits = tr ++ (tg ++ tb) ∧ c = .rgb r g b := by
  constructor
  · intro h
    generalize ht : numberSign :: digits = t at h
    cases h with
    | named name =>
      have hhead := head?_name_ne name
      rw [← ht] at hhead
      exact absurd rfl hhead
    | rgb red green blue =>
      obtain ⟨-, rfl⟩ := List.cons.inj ht
      exact ⟨_, _, _, _, _, _, red, green, blue, rfl, rfl⟩
  · rintro ⟨r, g, b, tr, tg, tb, red, green, blue, rfl, rfl⟩
    exact .rgb red green blue

/-- **Digits are read as the color that they are written for.** -/
theorem ofHexDigits?_eq_some {digits : Text} :
    ofHexDigits? digits = some c ↔ Written c (numberSign :: digits) := by
  rw [written_hex_iff]
  constructor
  · intro h
    unfold ofHexDigits? at h
    split at h
    · obtain ⟨r, hr, h⟩ := Option.bind_eq_some_iff.mp h
      obtain ⟨g, hg, h⟩ := Option.bind_eq_some_iff.mp h
      obtain ⟨b, hb, h⟩ := Option.bind_eq_some_iff.mp h
      exact ⟨r, g, b, _, _, _, hexByte?_eq_some.mp hr, hexByte?_eq_some.mp hg,
        hexByte?_eq_some.mp hb, rfl, (Option.some.inj h).symm⟩
    · cases h
  · rintro ⟨r, g, b, tr, tg, tb, red, green, blue, rfl, rfl⟩
    obtain ⟨r₁, r₂, rfl, -⟩ := red.exists_pair
    obtain ⟨g₁, g₂, rfl, -⟩ := green.exists_pair
    obtain ⟨b₁, b₂, rfl, -⟩ := blue.exists_pair
    show ((hexByte? r₁ r₂).bind fun r => (hexByte? g₁ g₂).bind fun g =>
      (hexByte? b₁ b₂).bind fun b => some (Color.rgb r g b)) = _
    rw [hexByte?_eq_some.mpr red, hexByte?_eq_some.mpr green, hexByte?_eq_some.mpr blue]
    rfl

/-! ### What is written -/

/-- A color that can be written is a named one, or has channels below 256. -/
theorem Written.named_or_rgb (h : Written c t) : (∃ name, c = .named name) ∨
    ∃ r g b : Nat, r < 256 ∧ g < 256 ∧ b < 256 ∧ c = .rgb r g b := by
  cases h with
  | named name => exact .inl ⟨name, rfl⟩
  | rgb red green blue => exact .inr ⟨_, _, _, red.lt, green.lt, blue.lt, rfl⟩

/-- The digits of a color, six of them. -/
theorem isHexColor_of_octets {r g b : Nat} {tr tg tb : Text} (red : Octet r tr)
    (green : Octet g tg) (blue : Octet b tb) : IsHexColor (numberSign :: (tr ++ (tg ++ tb))) := by
  obtain ⟨r₁, r₂, rfl, hr₁, hr₂⟩ := red.exists_pair
  obtain ⟨g₁, g₂, rfl, hg₁, hg₂⟩ := green.exists_pair
  obtain ⟨b₁, b₂, rfl, hb₁, hb₂⟩ := blue.exists_pair
  refine ⟨_, rfl, rfl, ?_⟩
  show ∀ u ∈ [r₁, r₂, g₁, g₂, b₁, b₂], IsHexDigit u
  simp only [List.forall_mem_cons]
  exact ⟨hr₁, hr₂, hg₁, hg₂, hb₁, hb₂, nofun⟩

theorem IsHexColor.exists_written (h : IsHexColor t) : ∃ c, Written c t := by
  obtain ⟨digits, rfl, hlength, hdigits⟩ := h
  match digits, hlength, hdigits with
  | [r₁, r₂, g₁, g₂, b₁, b₂], _, hdigits =>
    simp only [List.forall_mem_cons] at hdigits
    obtain ⟨hr₁, hr₂, hg₁, hg₂, hb₁, hb₂, -⟩ := hdigits
    obtain ⟨r, red⟩ := exists_octet_pair hr₁ hr₂
    obtain ⟨g, green⟩ := exists_octet_pair hg₁ hg₂
    obtain ⟨b, blue⟩ := exists_octet_pair hb₁ hb₂
    exact ⟨.rgb r g b, .rgb red green blue⟩

/-- **The texts that are written for colors are those that stand for one by themselves.** -/
theorem exists_written_iff : (∃ c, Written c t) ↔ IsColorText t := by
  constructor
  · rintro ⟨c, h⟩
    cases h with
    | named name => exact .inr ⟨name, rfl⟩
    | rgb red green blue => exact .inl (isHexColor_of_octets red green blue)
  · rintro (h | ⟨name, rfl⟩)
    · exact h.exists_written
    · exact ⟨.named name, .named name⟩

theorem isBlank_of_isHexDigit {u : UInt16} (h : IsHexDigit u) : isBlank u = false := by
  obtain ⟨digits, hdigits, hu⟩ := h
  have hall : ∀ digits ∈ hexAlphabets, Blankless digits := by decide +kernel
  exact hall digits hdigits u hu

theorem blankless_name (name : ColorName) : Blankless (ofString name.name) := by
  cases name <;> decide

/-- No blank is written for a color. -/
theorem Written.blankless (h : Written c t) : Blankless t := by
  rcases exists_written_iff.mp ⟨c, h⟩ with ⟨digits, rfl, -, hdigits⟩ | ⟨name, rfl⟩
  · refine List.forall_mem_cons.mpr ⟨by decide, ?_⟩
    intro u hu
    exact isBlank_of_isHexDigit (hdigits u hu)
  · exact blankless_name name

end Color

end EditorGutter
