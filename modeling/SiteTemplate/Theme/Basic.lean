import SiteTemplate.Entries
import SiteTemplate.Record
import SiteTemplate.Text.Characters

/-!
# Themes

A theme holds ramps of colours, typography, spacing and other scales. A colour is named by the
family of utilities that has it, or as an arbitrary value; a value that is no colour is named as a
bracketed text.
-/

namespace SiteTemplate

abbrev Ramp := Entries Int String

namespace Palette

open Text

def steps : List Int := [50, 100, 200, 300, 400, 500, 600, 700, 800, 900]

def ramp (colors : List String) : Ramp := steps.zip colors

def slate : List String :=
  ["#f8fafc", "#f1f5f9", "#e2e8f0", "#cbd5e1", "#94a3b8", "#64748b", "#475569", "#334155",
    "#1e293b", "#0f172a"]

def gray : List String :=
  ["#f9fafb", "#f3f4f6", "#e5e7eb", "#d1d5db", "#9ca3af", "#6b7280", "#4b5563", "#374151",
    "#1f2937", "#111827"]

def red : List String :=
  ["#fef2f2", "#fee2e2", "#fecaca", "#fca5a5", "#f87171", "#ef4444", "#dc2626", "#b91c1c",
    "#991b1b", "#7f1d1d"]

def orange : List String :=
  ["#fff7ed", "#ffedd5", "#fed7aa", "#fdba74", "#fb923c", "#f97316", "#ea580c", "#c2410c",
    "#9a3412", "#7c2d12"]

def amber : List String :=
  ["#fffbeb", "#fef3c7", "#fde68a", "#fcd34d", "#fbbf24", "#f59e0b", "#d97706", "#b45309",
    "#92400e", "#78350f"]

def yellow : List String :=
  ["#fefce8", "#fef9c3", "#fef08a", "#fde047", "#facc15", "#eab308", "#ca8a04", "#a16207",
    "#854d0e", "#713f12"]

def green : List String :=
  ["#f0fdf4", "#dcfce7", "#bbf7d0", "#86efac", "#4ade80", "#22c55e", "#16a34a", "#15803d",
    "#166534", "#14532d"]

def emerald : List String :=
  ["#ecfdf5", "#d1fae5", "#a7f3d0", "#6ee7b7", "#34d399", "#10b981", "#059669", "#047857",
    "#065f46", "#064e3b"]

def sky : List String :=
  ["#f0f9ff", "#e0f2fe", "#bae6fd", "#7dd3fc", "#38bdf8", "#0ea5e9", "#0284c7", "#0369a1",
    "#075985", "#0c4a6e"]

def blue : List String :=
  ["#eff6ff", "#dbeafe", "#bfdbfe", "#93c5fd", "#60a5fa", "#3b82f6", "#2563eb", "#1d4ed8",
    "#1e40af", "#1e3a8a"]

def families : List (String × List String) :=
  [("slate", slate), ("gray", gray), ("red", red), ("orange", orange), ("amber", amber),
    ("yellow", yellow), ("green", green), ("emerald", emerald), ("sky", sky), ("blue", blue)]

/-- The colours of the palette with their names; one family has a step beyond the ten. -/
def names : List (String × String) :=
  (families.flatMap fun (family, colors) =>
    (ramp colors).map fun (step, color) => (color, family ++ "-" ++ toString step))
      ++ [("#451a03", "amber-950")]

/-- The name of a colour in a class: its name in the palette, or its value in brackets. -/
def colorName (color : String) : String :=
  let value := lowered (trimmed color)
  (names.lookup value).getD ("[" ++ value ++ "]")

end Palette

open Record

/-- The four colour ramps of a theme. -/
inductive ColorGroup where
  | primary
  | secondary
  | accent
  | neutral
deriving DecidableEq, Repr

namespace ColorGroup

def all : List ColorGroup := [.primary, .secondary, .accent, .neutral]

def name : ColorGroup → String
  | .primary => "primary"
  | .secondary => "secondary"
  | .accent => "accent"
  | .neutral => "neutral"

def ofName? (s : String) : Option ColorGroup := all.find? (·.name == s)

end ColorGroup

structure ColorScheme where
  primary : Ramp
  secondary : Ramp
  accent : Ramp
  neutral : Ramp
  /-- Colours by their meaning; what they hold is free. -/
  semantic : Members := []

namespace ColorScheme

def ramp (c : ColorScheme) : ColorGroup → Ramp
  | .primary => c.primary
  | .secondary => c.secondary
  | .accent => c.accent
  | .neutral => c.neutral

def read : Json → Reading ColorScheme := Record.read fun o =>
  pure mk
    <*> required o (.single "primary") (Read.intEntries Read.text)
    <*> required o (.single "secondary") (Read.intEntries Read.text)
    <*> required o (.single "accent") (Read.intEntries Read.text)
    <*> required o (.single "neutral") (Read.intEntries Read.text)
    <*> optional o (.single "semantic") [] Read.members

def rampToJson (r : Ramp) : Json := .obj (r.map fun (step, color) => (toString step, .str color))

def toJson (s : Spelling) (c : ColorScheme) : Json :=
  Record.write s
    [(.single "primary", rampToJson c.primary), (.single "secondary", rampToJson c.secondary),
      (.single "accent", rampToJson c.accent), (.single "neutral", rampToJson c.neutral),
      (.single "semantic", (Json.obj c.semantic).encoded)]

end ColorScheme

structure Typography where
  fontFamily : Entries String String
  fontSize : Entries String String := []
  fontWeight : Entries String Int := []
  lineHeight : Entries String Binary64 := []

namespace Typography

def read : Json → Reading Typography := Record.read fun o =>
  pure mk
    <*> required o ⟨"font_family", "fontFamily"⟩ (Read.entries Read.text)
    <*> optional o ⟨"font_size", "fontSize"⟩ [] (Read.entries Read.text)
    <*> optional o ⟨"font_weight", "fontWeight"⟩ [] (Read.entries Read.int)
    <*> optional o ⟨"line_height", "lineHeight"⟩ [] (Read.entries Read.float)

def toJson (s : Spelling) (t : Typography) : Json :=
  Record.write s
    [(⟨"font_family", "fontFamily"⟩, .ofTextEntries t.fontFamily),
      (⟨"font_size", "fontSize"⟩, .ofTextEntries t.fontSize),
      (⟨"font_weight", "fontWeight"⟩, .obj (Entries.mapValues .int t.fontWeight)),
      (⟨"line_height", "lineHeight"⟩, .obj (Entries.mapValues .float t.lineHeight))]

end Typography

/-- A bundle of design tokens. -/
structure Theme where
  name : String
  displayName : String := ""
  description : String := ""
  colors : ColorScheme
  typography : Typography
  spacing : Entries String String := []
  borderRadius : Entries String String := []
  shadows : Entries String String := []
  breakpoints : Entries String String := []
  /-- The classes from which every generated class list starts. -/
  baseClasses : String := ""
  /-- The radius steps that are exchanged for others. -/
  radiusSteps : Entries String String := []
  /-- The shadow steps that are exchanged for others. -/
  shadowSteps : Entries String String := []

namespace Theme

def read : Json → Reading Theme := Record.read fun o =>
  pure mk
    <*> required o (.single "name") Read.nonEmptyText
    <*> optional o ⟨"display_name", "displayName"⟩ "" Read.text
    <*> optional o (.single "description") "" Read.text
    <*> required o (.single "colors") ColorScheme.read
    <*> required o (.single "typography") Typography.read
    <*> optional o (.single "spacing") [] (Read.entries Read.text)
    <*> optional o ⟨"border_radius", "borderRadius"⟩ [] (Read.entries Read.text)
    <*> optional o (.single "shadows") [] (Read.entries Read.text)
    <*> optional o (.single "breakpoints") [] (Read.entries Read.text)
    <*> optional o ⟨"base_classes", "baseClasses"⟩ "" Read.text
    <*> optional o ⟨"radius_steps", "radiusSteps"⟩ [] (Read.entries Read.text)
    <*> optional o ⟨"shadow_steps", "shadowSteps"⟩ [] (Read.entries Read.text)

def toJson (s : Spelling) (t : Theme) : Json :=
  Record.write s
    [(.single "name", .str t.name), (⟨"display_name", "displayName"⟩, .str t.displayName),
      (.single "description", .str t.description), (.single "colors", t.colors.toJson s),
      (.single "typography", t.typography.toJson s), (.single "spacing", .ofTextEntries t.spacing),
      (⟨"border_radius", "borderRadius"⟩, .ofTextEntries t.borderRadius),
      (.single "shadows", .ofTextEntries t.shadows),
      (.single "breakpoints", .ofTextEntries t.breakpoints),
      (⟨"base_classes", "baseClasses"⟩, .str t.baseClasses),
      (⟨"radius_steps", "radiusSteps"⟩, .ofTextEntries t.radiusSteps),
      (⟨"shadow_steps", "shadowSteps"⟩, .ofTextEntries t.shadowSteps)]

def primaryFont (t : Theme) : String :=
  (Entries.get? t.typography.fontFamily "primary").getD ""

end Theme

end SiteTemplate
