import EditorGutter.Measure

/-!
Texts as sequences of UTF-16 code units.

Offsets and lengths of the editor count code units, and a host may hand over a text in which a
surrogate stands alone, so a text is a list of units and not a `String`.  `codePoints` reads the
units as code points, a high surrogate directly followed by a low one being one code point and
any other unit one by itself; `ofCodePoints_codePoints` says that nothing is lost.
-/
namespace EditorGutter

/-- A text, as its UTF-16 code units. -/
abbrev Text := List UInt16

/-- A code point: a Unicode scalar value, or a surrogate that stands alone. -/
abbrev CodePoint := Nat

namespace Text

/-! ### Code points -/

/-- The first unit of a surrogate pair. -/
def isHighSurrogate (u : UInt16) : Bool := 0xD800 ≤ u && u ≤ 0xDBFF

/-- The second unit of a surrogate pair. -/
def isLowSurrogate (u : UInt16) : Bool := 0xDC00 ≤ u && u ≤ 0xDFFF

/-- The code point of a surrogate pair. -/
def pairCodePoint (high low : UInt16) : Nat :=
  (high.toNat - 0xD800) * 0x400 + (low.toNat - 0xDC00) + 0x10000

/-- The code points of a text; a surrogate without its partner is one by itself. -/
def codePoints : Text → List CodePoint
  | [] => []
  | [u] => [u.toNat]
  | u :: v :: rest =>
    if isHighSurrogate u && isLowSurrogate v then pairCodePoint u v :: codePoints rest
    else u.toNat :: codePoints (v :: rest)

/-- The units of a code point. -/
def ofCodePoint (c : Nat) : Text :=
  if c < 0x10000 then [UInt16.ofNat c]
  else
    [UInt16.ofNat (0xD800 + (c - 0x10000) / 0x400), UInt16.ofNat (0xDC00 + (c - 0x10000) % 0x400)]

/-- The text with the given code points. -/
def ofCodePoints (cs : List CodePoint) : Text := cs.flatMap ofCodePoint

theorem ofCodePoint_unit (u : UInt16) : ofCodePoint u.toNat = [u] := by
  have := u.toNat_lt
  simp only [ofCodePoint, UInt16.ofNat_toNat]
  rw [if_pos (by omega)]

theorem ofCodePoint_of_ge {c high low : Nat} (hc : 0x10000 ≤ c)
    (hh : 0xD800 + (c - 0x10000) / 0x400 = high) (hl : 0xDC00 + (c - 0x10000) % 0x400 = low) :
    ofCodePoint c = [UInt16.ofNat high, UInt16.ofNat low] := by
  rw [ofCodePoint, if_neg (Nat.not_lt.2 hc), hh, hl]

theorem ofCodePoint_pair {u v : UInt16} (hu : isHighSurrogate u = true)
    (hv : isLowSurrogate v = true) : ofCodePoint (pairCodePoint u v) = [u, v] := by
  simp only [isHighSurrogate, isLowSurrogate, Bool.and_eq_true, decide_eq_true_eq,
    UInt16.le_iff_toNat_le] at hu hv
  have key : ∀ a b : Nat, 0xD800 ≤ a → 0xDC00 ≤ b → b ≤ 0xDFFF →
      let c := (a - 0xD800) * 0x400 + (b - 0xDC00) + 0x10000
      0x10000 ≤ c ∧ 0xD800 + (c - 0x10000) / 0x400 = a ∧ 0xDC00 + (c - 0x10000) % 0x400 = b := by
    intro a b ha hb hb' c
    refine ⟨?_, ?_, ?_⟩ <;> omega
  obtain ⟨h, h₁, h₂⟩ := key _ _ hu.1 hv.1 hv.2
  rw [pairCodePoint, ofCodePoint_of_ge h h₁ h₂, UInt16.ofNat_toNat, UInt16.ofNat_toNat]

/-- Reading a text as code points loses nothing. -/
theorem ofCodePoints_codePoints (t : Text) : ofCodePoints (codePoints t) = t := by
  fun_induction codePoints t with
  | case1 => rfl
  | case2 u => simp [ofCodePoints, ofCodePoint_unit]
  | case3 u v rest h ih =>
    simp only [Bool.and_eq_true] at h
    simp only [ofCodePoints, List.flatMap_cons] at ih ⊢
    rw [ofCodePoint_pair h.1 h.2, ih]
    rfl
  | case4 u v rest _ ih =>
    simp only [ofCodePoints, List.flatMap_cons] at ih ⊢
    rw [ofCodePoint_unit, ih]
    rfl

/-! ### Literals -/

/-- The units of a sequence of characters. -/
def ofChars (cs : List Char) : Text := cs.flatMap fun c => ofCodePoint c.toNat

/-- The units of a string. -/
def ofString (s : String) : Text := ofChars s.toList

theorem ofString_append (s t : String) : ofString (s ++ t) = ofString s ++ ofString t := by
  rw [ofString, String.toList_append, ofChars, List.flatMap_append]
  rfl

instance : Coe String Text := ⟨ofString⟩

/-- The character of a code point; a surrogate that stands alone is replaced. -/
def charOf (c : Nat) : Char := if h : c.isValidChar then Char.ofNatAux c h else '\uFFFD'

/-- The string with the characters of a text. -/
def toString (t : Text) : String := String.ofList ((codePoints t).map charOf)

/-- A text between double quotes. -/
def quoted (t : Text) : Text := ofString "\"" ++ t ++ ofString "\""

/-- The texts one after the other, with `separator` between neighbours. -/
def joinWith (separator : Text) (ts : List Text) : Text := List.intercalate separator ts

/-! ### Sizes and padding -/

/-- The number of bytes of a code point in UTF-8; a surrogate that stands alone is replaced by
U+FFFD, which has three. -/
def codePointSize (c : Nat) : Nat :=
  if c < 0x80 then 1 else if c < 0x800 then 2 else if c < 0x10000 then 3 else 4

/-- The number of bytes of a text in UTF-8. -/
def utf8Size (t : Text) : Nat := total codePointSize (codePoints t)

/-- The space. -/
def space : UInt16 := 0x20

/-- So many spaces. -/
def spaces (n : Nat) : Text := List.replicate n space

/-- The text right-aligned in `width` units; a longer text is kept as it is. -/
def padLeft (width : Nat) (t : Text) : Text := spaces (width - t.length) ++ t

theorem length_padLeft (width : Nat) (t : Text) :
    (padLeft width t).length = max width t.length := by
  simp only [padLeft, spaces, List.length_append, List.length_replicate]
  omega

end Text

end EditorGutter
