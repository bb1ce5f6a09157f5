import EditorGutter.Number.Decimal
import EditorGutter.Value.Basic

/-!
Reading JSON text into a value.

The members of an object keep the order and the repetitions in which they are written, since both
have a meaning (`EditorGutter.Value.Record`), and an escape may name a surrogate that stands alone.
Every function gives what it has read and the characters that are left, or nothing if the text
does not go on as it has to.
-/
namespace EditorGutter

namespace Json

/-- A text without the blanks at its start. -/
def skipBlanks : List Char → List Char
  | c :: rest => if c = ' ' ∨ c = '\n' ∨ c = '\t' ∨ c = '\r' then skipBlanks rest else c :: rest
  | [] => []

/-- The rest of a text after the given characters, with which it has to start. -/
def expect : List Char → List Char → Option (List Char)
  | [], cs => some cs
  | e :: es, c :: cs => if e = c then expect es cs else none
  | _ :: _, [] => none

/-! ### Numbers -/

/-- The digits at the start of a text. -/
def readDigits (cs : List Char) : List Char × List Char :=
  (cs.takeWhile Char.isDigit, cs.dropWhile Char.isDigit)

/-- The number that decimal digits write. -/
def ofDigits (ds : List Char) : Nat := ds.foldl (fun n d => n * 10 + (d.toNat - 48)) 0

/-- The digits after a decimal point, if there is one. -/
def readFraction : List Char → List Char × List Char
  | '.' :: rest => readDigits rest
  | cs => ([], cs)

/-- The exponent, zero if there is none. -/
def readExponent (cs : List Char) : Int × List Char :=
  match cs with
  | c :: rest =>
    if c = 'e' ∨ c = 'E' then
      match rest with
      | '-' :: ds => (-(ofDigits (readDigits ds).1 : Int), (readDigits ds).2)
      | '+' :: ds => (ofDigits (readDigits ds).1, (readDigits ds).2)
      | ds => (ofDigits (readDigits ds).1, (readDigits ds).2)
    else (0, cs)
  | [] => (0, [])

/-- The number with which a text starts. -/
def readNumber (cs : List Char) : Option (Number × List Char) :=
  let (negative, cs) := match cs with
    | '-' :: rest => (true, rest)
    | _ => (false, cs)
  let (whole, cs) := readDigits cs
  let (fraction, cs) := readFraction cs
  let (exponent, cs) := readExponent cs
  if whole = [] then none
  else
    some (Number.ofScientific negative (ofDigits (whole ++ fraction)) (exponent - fraction.length),
      cs)

/-! ### Texts -/

/-- The value of a hexadecimal digit. -/
def hexValue? (c : Char) : Option Nat :=
  if '0' ≤ c ∧ c ≤ '9' then some (c.toNat - 48)
  else if 'a' ≤ c ∧ c ≤ 'f' then some (c.toNat - 87)
  else if 'A' ≤ c ∧ c ≤ 'F' then some (c.toNat - 55)
  else none

/-- The unit that four hexadecimal digits name. -/
def hexUnit? (a b c d : Char) : Option UInt16 := do
  let a ← hexValue? a
  let b ← hexValue? b
  let c ← hexValue? c
  let d ← hexValue? d
  return UInt16.ofNat (((a * 16 + b) * 16 + c) * 16 + d)

/-- The unit that a short escape stands for. -/
def shortEscape? : Char → Option UInt16
  | '"' => some 0x22
  | '\\' => some 0x5C
  | '/' => some 0x2F
  | 'b' => some 0x08
  | 'f' => some 0x0C
  | 'n' => some 0x0A
  | 'r' => some 0x0D
  | 't' => some 0x09
  | _ => none

/-- The text up to the closing quote. -/
def readQuoted : List Char → Option (Text × List Char)
  | '"' :: rest => some ([], rest)
  | '\\' :: 'u' :: a :: b :: c :: d :: rest => do
    let u ← hexUnit? a b c d
    let (t, rest) ← readQuoted rest
    return (u :: t, rest)
  | '\\' :: c :: rest => do
    let u ← shortEscape? c
    let (t, rest) ← readQuoted rest
    return (u :: t, rest)
  | c :: rest => do
    let (t, rest) ← readQuoted rest
    return (Text.ofCodePoint c.toNat ++ t, rest)
  | [] => none

/-! ### Values -/

/-- The name of a member and the colon after it. -/
def readName (cs : List Char) : Option (Text × List Char) := do
  let cs ← expect ['"'] (skipBlanks cs)
  let (name, cs) ← readQuoted cs
  let cs ← expect [':'] (skipBlanks cs)
  return (name, cs)

mutual

/-- The value with which a text starts; `fuel` bounds the depth of the reading. -/
def readValue : Nat → List Char → Option (Value × List Char)
  | 0, _ => none
  | fuel + 1, cs =>
    match skipBlanks cs with
    | 'n' :: rest => (expect "ull".toList rest).map fun rest => (.null, rest)
    | 't' :: rest => (expect "rue".toList rest).map fun rest => (.bool true, rest)
    | 'f' :: rest => (expect "alse".toList rest).map fun rest => (.bool false, rest)
    | '"' :: rest => (readQuoted rest).map fun r => (.text r.1, r.2)
    | '[' :: rest =>
      match skipBlanks rest with
      | ']' :: rest => some (.array [], rest)
      | _ => (readItems fuel rest).map fun r => (.array r.1, r.2)
    | '\x7b' :: rest =>
      match skipBlanks rest with
      | '\x7d' :: rest => some (.object [], rest)
      | _ => (readMembers fuel rest).map fun r => (.object r.1, r.2)
    | cs => (readNumber cs).map fun r => (.number r.1, r.2)

/-- The items of an array up to its closing bracket. -/
def readItems : Nat → List Char → Option (List Value × List Char)
  | 0, _ => none
  | fuel + 1, cs => do
    let (v, cs) ← readValue fuel cs
    match skipBlanks cs with
    | ',' :: cs =>
      let (vs, cs) ← readItems fuel cs
      return (v :: vs, cs)
    | ']' :: cs => return ([v], cs)
    | _ => none

/-- The members of an object up to its closing brace. -/
def readMembers : Nat → List Char → Option (List (Text × Value) × List Char)
  | 0, _ => none
  | fuel + 1, cs => do
    let (name, cs) ← readName cs
    let (v, cs) ← readValue fuel cs
    match skipBlanks cs with
    | ',' :: cs =>
      let (ms, cs) ← readMembers fuel cs
      return ((name, v) :: ms, cs)
    | '\x7d' :: cs => return ([(name, v)], cs)
    | _ => none

end

/-- The value that a whole text writes; each step of the reading uses up a character or goes one
step down, so twice the length of the text is depth enough. -/
def read (s : String) : Option Value := do
  let (v, rest) ← readValue (2 * s.length + 2) s.toList
  if skipBlanks rest = [] then some v else none

end Json

end EditorGutter
