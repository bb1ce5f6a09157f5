import EditorGutter.Number.Decimal
import EditorGutter.Value.Basic
import EditorGutter.Value.Record

/-!
The compact JSON text of a value: no blanks, members in the order of enumeration, and only those
characters escaped that have to be.

Short escapes are used where there is one; other control characters and surrogates that stand
alone are written as four lower-case hexadecimal digits.  NaN and the infinities have no text of
their own and are written as null.
-/
namespace EditorGutter

namespace Number

/-- The text of a number. -/
def toText (n : Number) : Text := Text.ofChars n.toChars

end Number

namespace Text

/-- The text of a natural number in decimal. -/
def ofNat (n : Nat) : Text := ofChars (Number.digits n)

theorem ofString_repr (n : Nat) : ofString n.repr = ofNat n := by
  rw [ofString, Nat.toList_repr]
  rfl

/-! ### Quoting -/

/-- The lower-case hexadecimal digit of a value below sixteen. -/
def hexDigit (n : Nat) : UInt16 :=
  UInt16.ofNat (if n < 10 then 0x30 + n else 0x61 + (n - 10))

/-- A unit written as four hexadecimal digits. -/
def unicodeEscape (n : Nat) : Text :=
  ofString "\\u" ++
    [hexDigit (n / 0x1000 % 16), hexDigit (n / 0x100 % 16), hexDigit (n / 0x10 % 16),
      hexDigit (n % 16)]

/-- The written form of a code point inside quotes. -/
def escapeCodePoint (c : Nat) : Text :=
  if c = 0x22 then ofString "\\\""
  else if c = 0x5C then ofString "\\\\"
  else if c = 0x08 then ofString "\\b"
  else if c = 0x09 then ofString "\\t"
  else if c = 0x0A then ofString "\\n"
  else if c = 0x0C then ofString "\\f"
  else if c = 0x0D then ofString "\\r"
  else if c < 0x20 then unicodeEscape c
  else if 0xD800 ≤ c ∧ c ≤ 0xDFFF then unicodeEscape c
  else ofCodePoint c

/-- A text in quotes, with the escapes it needs. -/
def jsonQuoted (t : Text) : Text := quoted ((codePoints t).flatMap escapeCodePoint)

end Text

/-! ### Values -/

namespace Value

open Text

/-- The text of a number inside a value. -/
def compactNumber (n : Number) : Text :=
  match n with
  | .finite _ => n.toText
  | _ => ofString "null"

mutual

/-- The compact text of a value. -/
def compact : Value → Text
  | .null => ofString "null"
  | .bool b => ofString (if b then "true" else "false")
  | .number n => compactNumber n
  | .text t => jsonQuoted t
  | .array items => ofString "[" ++ joinWith (ofString ",") (compactItems items) ++ ofString "]"
  | .object members =>
    let written := (Record.entries (compactMembers members)).map fun m =>
      jsonQuoted m.1 ++ ofString ":" ++ m.2
    ofString "\x7b" ++ joinWith (ofString ",") written ++ ofString "\x7d"

/-- The texts of the items of an array. -/
def compactItems : List Value → List Text
  | [] => []
  | v :: rest => v.compact :: compactItems rest

/-- The members of an object with the texts of their values. -/
def compactMembers : List (Text × Value) → List (Text × Text)
  | [] => []
  | (name, v) :: rest => (name, v.compact) :: compactMembers rest

end

end Value

end EditorGutter
