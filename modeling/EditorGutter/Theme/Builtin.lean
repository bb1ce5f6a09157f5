import EditorGutter.Theme.Basic

/-!
The two themes that come with the editor: a dark one, which is the default, and a light one.
-/
namespace EditorGutter

namespace ThemeDefinition

/-- Pairs of names and texts, from strings. -/
def paletteOf (colors : List (String × String)) : List (Text × Text) :=
  colors.map fun c => (Text.ofString c.1, Text.ofString c.2)

/-- An entry with a foreground only. -/
def foreground (scope color : String) : Text × ScopeEntry :=
  (Text.ofString scope, .color (Text.ofString color))

/-- An entry with a background only. -/
def background (scope color : String) : Text × ScopeEntry :=
  (Text.ofString scope, .parts none (some (Text.ofString color)) [])

/-- The dark theme, with muted grays on near black. -/
def dark : ThemeDefinition where
  palette := paletteOf
    [("background", "#1e1e1e"), ("foreground", "#d4d4d4"), ("muted", "#858585"),
     ("crimson", "#f44747"), ("amber", "#cca700"), ("azure", "#3794ff"), ("slate", "#6e7681")]
  scopes :=
    [background "ui.background" "background", foreground "ui.text" "foreground",
     background "ui.gutter" "background", foreground "ui.linenr" "muted",
     (Text.ofString "ui.linenr.selected",
      .parts (some (Text.ofString "foreground")) none [Text.ofString "bold"]),
     foreground "error" "crimson", foreground "warning" "amber", foreground "info" "azure",
     foreground "hint" "slate"]

/-- The light theme, on white. -/
def light : ThemeDefinition where
  palette := paletteOf
    [("background", "#ffffff"), ("foreground", "#24292e"), ("muted", "#959da5"),
     ("crimson", "#cb2431"), ("orange", "#e36209"), ("azure", "#0366d6"), ("violet", "#6f42c1")]
  scopes :=
    [background "ui.background" "background", foreground "ui.text" "foreground",
     background "ui.gutter" "background", foreground "ui.linenr" "muted",
     foreground "ui.linenr.selected" "foreground", foreground "error" "crimson",
     foreground "warning" "orange", foreground "info" "azure", foreground "hint" "violet"]

end ThemeDefinition

namespace Theme

/-- The theme of a definition known to be well formed. -/
def ofChecked (name : Text) (d : ThemeDefinition) (h : (ofDefinition name d).toOption.isSome) :
    Theme :=
  (ofDefinition name d).toOption.get h

/-- The dark theme. -/
def dark : Theme := ofChecked (Text.ofString "dark") ThemeDefinition.dark (by decide +kernel)

/-- The light theme. -/
def light : Theme := ofChecked (Text.ofString "light") ThemeDefinition.light (by decide +kernel)

end Theme

end EditorGutter
