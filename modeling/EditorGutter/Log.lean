import EditorGutter.Value.Basic

/-!
Log records and the threshold that decides which of them are shown.

The operations of the editor do not print: one that has something to report returns its records,
each under the name of its part of the editor, and the host shows those that its threshold lets
through.
-/
namespace EditorGutter

namespace Log

/-- How grave a record is. -/
inductive Level where
  | debug
  | info
  | warn
  | error
  deriving DecidableEq, Repr

/-- The rank of a level; graver levels rank higher. -/
def Level.rank : Level → Nat
  | .debug => 0
  | .info => 1
  | .warn => 2
  | .error => 3

/-- The name of a level. -/
def Level.name : Level → String
  | .debug => "debug"
  | .info => "info"
  | .warn => "warn"
  | .error => "error"

/-- What is shown: the records from a level on, or none. -/
inductive Threshold where
  | from (level : Level)
  | silent
  deriving DecidableEq, Repr

namespace Threshold

/-- The name of a threshold: that of its level, or `silent`. -/
def name : Threshold → String
  | .from level => level.name
  | .silent => "silent"

/-- Every threshold, the most talkative first. -/
def all : List Threshold :=
  [.from .debug, .from .info, .from .warn, .from .error, .silent]

/-- The threshold with the given name. -/
def ofName? (t : Text) : Option Threshold :=
  all.find? fun threshold => Text.ofString threshold.name = t

/-- Whether a record of the given level is shown. -/
def shows : Threshold → Level → Bool
  | .from least, level => least.rank ≤ level.rank
  | .silent, _ => false

/-- A capital ASCII letter as a small one, and any other unit as it is.  No other character has a
lower-case form that occurs in the name of a threshold. -/
def lowerUnit (u : UInt16) : UInt16 :=
  if 0x41 ≤ u && u ≤ 0x5A then u + 0x20 else u

/-- The threshold that an environment asks for: by name in any case, or else by the kind of run,
everything in development, warnings in tests and information otherwise. -/
def ofEnvironment (requested run : Option Text) : Threshold :=
  match ofName? ((requested.getD []).map lowerUnit) with
  | some threshold => threshold
  | none =>
    if run = some (Text.ofString "development") then .from .debug
    else if run = some (Text.ofString "test") then .from .warn
    else .from .info

end Threshold

/-- One report: its level and the values reported, the name of the reporting part first. -/
structure Record where
  level : Level
  args : List Value

/-- The report of a part of the editor. -/
def record (part : Text) (level : Level) (args : List Value) : Record :=
  ⟨level, .text (Text.ofString "[" ++ part ++ Text.ofString "]") :: args⟩

/-- The records that a threshold lets through. -/
def shown (threshold : Threshold) (records : List Record) : List Record :=
  records.filter fun r => threshold.shows r.level

end Log

end EditorGutter
