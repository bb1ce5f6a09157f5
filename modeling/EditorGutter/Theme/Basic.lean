import EditorGutter.Style

/-!
Themes: styles for named scopes.

A theme is built once from its definition, a palette and an entry for each scope, and building it
checks every entry; so whoever draws with it only meets resolved styles.  A scope is found by its
exact name.
-/
namespace EditorGutter

/-- What a theme definition says about a scope. -/
inductive ScopeEntry where
  /-- Only a foreground. -/
  | color (fg : Text)
  | parts (fg bg : Option Text) (modifiers : List Text)
  deriving DecidableEq, Repr

/-- A theme before its entries are checked. -/
structure ThemeDefinition where
  palette : List (Text × Text)
  scopes : List (Text × ScopeEntry)
  deriving DecidableEq, Repr

/-- The scopes that the gutter draws with. -/
inductive Scope where
  | gutter
  | lineNumber
  | lineNumberSelected
  | error
  | warning
  | info
  | hint
  deriving DecidableEq, Repr

/-- The name of a scope. -/
def Scope.name : Scope → String
  | .gutter => "ui.gutter"
  | .lineNumber => "ui.linenr"
  | .lineNumberSelected => "ui.linenr.selected"
  | .error => "error"
  | .warning => "warning"
  | .info => "info"
  | .hint => "hint"

/-- The name of a scope as a text. -/
def Scope.text (s : Scope) : Text := Text.ofString s.name

namespace ScopeEntry

/-- A color set on a style if there is one to set. -/
def setColor (palette : List (Text × Text)) (set : Color → Style → Style) (color : Option Text)
    (s : Style) : Except ThemeFault Style :=
  match color with
  | some text => (Color.parse palette text).map fun c => set c s
  | none => .ok s

/-- Modifiers added to a style by name. -/
def addModifiers (s : Style) : List Text → Except ThemeFault Style
  | [] => .ok s
  | name :: rest =>
    match Modifier.ofText? name with
    | some m => addModifiers (s.addModifier m.mask) rest
    | none => .error (.unknownModifier name)

/-- The style that an entry describes: its foreground, its background, its modifiers. -/
def resolve (palette : List (Text × Text)) : ScopeEntry → Except ThemeFault Style
  | .color fg => setColor palette Style.withFg (some fg) Style.empty
  | .parts fg bg modifiers => do
    let s ← setColor palette Style.withFg fg Style.empty
    let s ← setColor palette Style.withBg bg s
    addModifiers s modifiers

end ScopeEntry

/-- The styles of named scopes. -/
structure Theme where
  name : Text
  styles : OrderedMap Text Style
  deriving DecidableEq

namespace Theme

/-- The styles of some entries, or the first entry that is malformed. -/
def resolveAll (theme : Text) (palette : List (Text × Text)) :
    List (Text × ScopeEntry) → OrderedMap Text Style → Except Fault (OrderedMap Text Style)
  | [], styles => .ok styles
  | (scope, entry) :: rest, styles =>
    match entry.resolve palette with
    | .ok style => resolveAll theme palette rest (styles.insert scope style)
    | .error cause => .error (.theme (.inScope theme scope cause))

/-- The theme that a definition describes. -/
def ofDefinition (name : Text) (d : ThemeDefinition) : Except Fault Theme :=
  (resolveAll name d.palette (Record.entries d.scopes) OrderedMap.empty).map fun styles =>
    ⟨name, styles⟩

/-- The style of an optional scope. -/
def style? (t : Theme) (scope : Text) : Option Style := t.styles.get? scope

/-- The style of a required scope. -/
def style (t : Theme) (scope : Text) : Except Fault Style :=
  match t.style? scope with
  | some s => .ok s
  | none => .error (.missingStyle scope (some t.name))

end Theme

end EditorGutter
