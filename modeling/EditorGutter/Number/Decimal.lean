import EditorGutter.Number.Basic

/-!
The decimal text of a number.

A finite value is written with the fewest significant digits that read back as it, and of equally
short ones with those nearest to it (`shortest`).  `Layout.plain` holds the decisions that are
left: positional notation for magnitudes from `10 ^ -6` up to below `10 ^ 21`, and an exponent
with its sign outside of them.  Whole values up to `2 ^ 53` are written with all their digits,
which are their shortest ones.
-/
namespace EditorGutter

namespace Number

/-! ### Reading -/

/-- The power of ten with exponent `e`, exactly. -/
def pow10 (e : Int) : Rat :=
  if 0 ≤ e then (Nat.pow 10 e.toNat : Rat) else 1 / (Nat.pow 10 (-e).toNat : Rat)

/-- The number written as `mantissa · 10 ^ exponent`, rounded once. -/
def ofScientific (negative : Bool) (mantissa : Nat) (exponent : Int) : Number :=
  let magnitude := (mantissa : Rat) * pow10 exponent
  round (if negative then -magnitude else magnitude)

/-! ### Shortest digits -/

/-- The digits of a natural number, most significant first. -/
def digits (n : Nat) : List Char := Nat.toDigits 10 n

/-- The `p` with `10 ^ (p - 1) ≤ q < 10 ^ p`, for a positive `q`: where the decimal point stands
when the first significant digit follows it. -/
def pointPlace (q : Rat) : Int :=
  let guess : Int := ((digits q.num.natAbs).length : Int) - ((digits q.den).length : Int)
  if pow10 guess ≤ q then guess + 1 else guess

/-- The two neighbours of `q` among the whole numbers, the nearer one first and of equally near
ones the even one. -/
def neighbours (q : Rat) : List Int :=
  let nearest := roundHalfEven q
  if (nearest : Rat) ≤ q then [nearest, nearest + 1] else [nearest, nearest - 1]

/-- A decimal `0.d₁d₂… · 10 ^ point`, given by its digits. -/
structure Decimal where
  digits : List Char
  point : Int
  deriving DecidableEq, Repr

/-- The decimal `mantissa · 10 ^ exponent` without trailing zeros in its digits. -/
def Decimal.ofMantissa (mantissa : Nat) (exponent : Int) : Decimal :=
  let all := Number.digits mantissa
  { digits := (all.reverse.dropWhile (· == '0')).reverse
    point := (all.length : Int) + exponent }

/-- The first decimal with `count` digits or more, and at most `count + fuel`, that reads back as
the positive value `q`. -/
def shortestFrom (q : Rat) (point : Int) : Nat → Nat → Decimal
  | 0, count => Decimal.ofMantissa (roundHalfEven (q * pow10 (count - point))).toNat (point - count)
  | fuel + 1, count =>
    let candidates := neighbours (q * pow10 (count - point))
    match candidates.find? fun (c : Int) =>
      round ((c : Rat) * pow10 (point - count)) = .finite q with
    | some c => Decimal.ofMantissa c.toNat (point - count)
    | none => shortestFrom q point fuel (count + 1)

/-- The shortest decimal that reads back as the positive value `q`; seventeen digits always
suffice. -/
def shortest (q : Rat) : Decimal :=
  shortestFrom q (pointPlace q) 16 1

/-! ### Layout -/

/-- Where positional notation ends: a decimal point may stand at most `leading` zeros before the
first digit and at most `whole` places after it. -/
structure Layout where
  leading : Int
  whole : Int
  deriving DecidableEq, Repr

/-- Up to twenty-one whole digits are written out, and up to five zeros after the point. -/
def Layout.plain : Layout := ⟨5, 21⟩

/-- The exponent that follows the digits, with its sign. -/
def exponentPart (e : Int) : List Char :=
  'e' :: (if 0 ≤ e then '+' else '-') :: digits e.natAbs

/-- Writes a decimal positionally if the notation allows it and with an exponent otherwise. -/
def Layout.write (rule : Layout) (d : Decimal) : List Char :=
  let count : Int := d.digits.length
  if 0 < d.point ∧ d.point ≤ rule.whole then
    if count ≤ d.point then d.digits ++ List.replicate (d.point - count).toNat '0'
    else d.digits.take d.point.toNat ++ '.' :: d.digits.drop d.point.toNat
  else if d.point ≤ 0 ∧ -d.point ≤ rule.leading then
    '0' :: '.' :: (List.replicate (-d.point).toNat '0' ++ d.digits)
  else
    match d.digits with
    | [] => exponentPart (d.point - 1)
    | [lead] => lead :: exponentPart (d.point - 1)
    | lead :: rest => lead :: '.' :: (rest ++ exponentPart (d.point - 1))

/-- The text of a positive value. -/
def positiveChars (q : Rat) : List Char :=
  if q.den = 1 ∧ q.num.natAbs ≤ wholeLimit then digits q.num.natAbs
  else Layout.plain.write (shortest q)

/-- The text of a number. -/
def toChars : Number → List Char
  | .nan => ['N', 'a', 'N']
  | .posInf => "Infinity".toList
  | .negInf => "-Infinity".toList
  | .finite q => if q < 0 then '-' :: positiveChars (-q) else positiveChars q

theorem toChars_natCast {n : Nat} (h : n ≤ wholeLimit) : toChars (n : Number) = digits n := by
  show (if (n : Rat) < 0 then _ else positiveChars (n : Rat)) = _
  rw [if_neg (Rat.not_lt.2 (by exact_mod_cast Nat.zero_le n))]
  simp [positiveChars, h]

end Number

end EditorGutter
