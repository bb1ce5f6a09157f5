import EditorGutter.Value.Compact

/-!
What can go wrong while gutter state is built: constructing a theme, resolving a configuration,
binding a gutter, or giving a view, a selection or a column an impossible measure.

A fault is its cause; `Fault.message` is the one place where causes become words.  Drawing a line
with a bound gutter never fails.
-/
namespace EditorGutter

open Text

/-- What is wrong with a theme definition. -/
inductive ThemeFault where
  | malformedHex (color : Text)
  | unknownColor (color : Text)
  | unknownModifier (name : Text)
  | inScope (theme scope : Text) (cause : ThemeFault)
  | described (words : Text)
  deriving DecidableEq, Repr

/-- The words for a fault of a theme definition. -/
def ThemeFault.message : ThemeFault → Text
  | .malformedHex color => ofString "Malformed hex color " ++ quoted color
  | .unknownColor color => ofString "Unknown color " ++ quoted color
  | .unknownModifier name => ofString "Unknown modifier " ++ quoted name
  | .inScope theme scope cause =>
    ofString "Theme " ++ quoted theme ++ ofString ", scope " ++ quoted scope ++ ofString ": "
      ++ cause.message
  | .described words => words

/-- What a configuration entry should have been. -/
inductive ConfigFault where
  | expectedObject
  | expectedNumbering (found : Text)
  | expectedArray
  | expectedColumn
  | expectedGutter (known : List Text)
  | expectedPositive
  | described (words : Text)
  deriving DecidableEq, Repr

/-- The words for a fault of a configuration entry. -/
def ConfigFault.message : ConfigFault → Text
  | .expectedObject => ofString "expected an object"
  | .expectedNumbering found =>
    ofString "expected \"absolute\" or \"relative\", got " ++ found
  | .expectedArray => ofString "expected an array"
  | .expectedColumn => ofString "expected an object with \"type\" and \"width\""
  | .expectedGutter known => ofString "expected one of " ++ joinWith (ofString ", ") known
  | .expectedPositive => ofString "expected a positive integer"
  | .described words => words

/-- Which measure is impossible. -/
inductive RangeFault where
  | noRanges
  | primaryIndex (index : Number) (count : Nat)
  | viewHeight (height : Number)
  | viewOffset (offset : Number)
  | columnWidth (column : Text) (width : Number)
  | repeatCount (count : Number)
  deriving DecidableEq, Repr

/-- The words for an impossible measure. -/
def RangeFault.message : RangeFault → Text
  | .noRanges => ofString "A selection needs at least one range"
  | .primaryIndex index count =>
    ofString "Primary index " ++ index.toText ++ ofString " out of bounds (" ++ ofNat count
      ++ ofString " ranges)"
  | .viewHeight height =>
    ofString "View height must be a positive integer, got " ++ height.toText
  | .viewOffset offset =>
    ofString "View offset must be a non-negative integer, got " ++ offset.toText
  | .columnWidth column width =>
    ofString "Gutter " ++ quoted column ++ ofString " width must be a positive integer, got "
      ++ width.toText
  | .repeatCount count => ofString "Invalid count value: " ++ count.toText

/-- What went wrong. -/
inductive Fault where
  /-- A theme, named if it has a name, lacks a scope that a renderer requires. -/
  | missingStyle (scope : Text) (theme : Option Text)
  /-- The breakpoint gutter was bound to a document that no file backs. -/
  | missingDocumentPath
  /-- A theme definition is malformed. -/
  | theme (cause : ThemeFault)
  /-- The configuration entry at `key` is invalid. -/
  | config (key : Text) (cause : ConfigFault)
  /-- A measure is impossible. -/
  | range (cause : RangeFault)
  /-- The primary index of a selection names none of its ranges. -/
  | noPrimaryRange
  deriving DecidableEq, Repr

namespace Fault

/-- The words for a missing style; a theme without a name, or with an empty one, is not named. -/
def missingStyleMessage (scope : Text) : Option Text → Text
  | none | some [] => ofString "Theme has no style for required scope " ++ quoted scope
  | some name =>
    ofString "Theme " ++ quoted name ++ ofString " has no style for required scope "
      ++ quoted scope

/-- The words for a fault. -/
def message : Fault → Text
  | .missingStyle scope name => missingStyleMessage scope name
  | .missingDocumentPath => ofString "Breakpoint gutter requires a document with a file path"
  | .theme cause => cause.message
  | .config key cause => ofString "Invalid config " ++ quoted key ++ ofString ": " ++ cause.message
  | .range cause => cause.message
  | .noPrimaryRange => ofString "The selection has no primary range"

end Fault

end EditorGutter
