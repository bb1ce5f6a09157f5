import EditorGutter.Text.GraphemeRanges

/-!
The grapheme cluster classes of code points.

The class of a code point combines two properties of Unicode, `Grapheme_Cluster_Break` and
`Extended_Pictographic`, whose values never meet in one code point.  Its part in a conjunct is a
second class of its own.  A surrogate that stands alone is of the class `other`.
-/
namespace EditorGutter

/-- What a code point is when clusters are formed. -/
inductive GraphemeClass where
  | other
  | cr
  | lf
  | control
  | extend
  | zwj
  | spacingMark
  | prepend
  | regional
  | hangulL
  | hangulV
  | hangulT
  | hangulLV
  | hangulLVT
  | pictographic
  deriving DecidableEq, Repr

/-- What a code point is within a conjunct of two Indic consonants. -/
inductive ConjunctClass where
  | none
  | consonant
  | linker
  | extend
  deriving DecidableEq, Repr

namespace CodePoint

/-- The class of a code point. -/
def graphemeClass (c : CodePoint) : GraphemeClass :=
  if c = 0x0D then .cr
  else if c = 0x0A then .lf
  else if c = 0x200D then .zwj
  else if inRanges controlRanges c then .control
  else if inRanges extendRanges c then .extend
  else if inRanges spacingMarkRanges c then .spacingMark
  else if inRanges prependRanges c then .prepend
  else if inRanges regionalRanges c then .regional
  else if inRanges hangulLRanges c then .hangulL
  else if inRanges hangulVRanges c then .hangulV
  else if inRanges hangulTRanges c then .hangulT
  else if inRanges hangulSyllableRanges c then
    if (c - 0xAC00) % 28 = 0 then .hangulLV else .hangulLVT
  else if inRanges pictographicRanges c then .pictographic
  else .other

/-- The part of a code point in a conjunct.  Marks and the joiner may stand between its parts,
the non-joiner may not. -/
def conjunctClass (c : CodePoint) : ConjunctClass :=
  if inRanges consonantRanges c then .consonant
  else if inRanges linkerRanges c then .linker
  else if c = 0x200C then .none
  else if c = 0x200D ∨ inRanges extendRanges c then .extend
  else .none

end CodePoint

end EditorGutter
