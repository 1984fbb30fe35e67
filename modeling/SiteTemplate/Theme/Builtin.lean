import SiteTemplate.Theme.Basic

/-!
# The built-in themes
-/

namespace SiteTemplate.Theme

def neutralRamp : Ramp := Palette.ramp Palette.gray

/-- The accent ramp of the two bright themes, one step darker than amber. -/
def warmAccent : Ramp := Palette.ramp (Palette.amber.drop 1 ++ ["#451a03"])

def fontSizes : Entries String String :=
  [("xs", "0.75rem"), ("sm", "0.875rem"), ("base", "1rem"), ("lg", "1.125rem"), ("xl", "1.25rem"),
    ("2xl", "1.5rem"), ("3xl", "1.875rem"), ("4xl", "2.25rem"), ("5xl", "3rem"), ("6xl", "3.75rem")]

def fontWeights : Entries String Int :=
  [("thin", 100), ("light", 300), ("normal", 400), ("medium", 500), ("semibold", 600),
    ("bold", 700), ("extrabold", 800), ("black", 900)]

def lineHeightScale : Entries String Binary64 :=
  [("none", .ofRatio false 1 1), ("tight", .ofRatio false 5 4), ("snug", .ofRatio false 11 8),
    ("normal", .ofRatio false 3 2), ("relaxed", .ofRatio false 13 8), ("loose", .ofRatio false 2 1)]

def spacingScale : Entries String String :=
  [("xs", "0.25rem"), ("sm", "0.5rem"), ("md", "1rem"), ("lg", "1.5rem"), ("xl", "2rem"),
    ("2xl", "3rem"), ("3xl", "4rem"), ("4xl", "6rem"), ("5xl", "8rem"), ("6xl", "12rem")]

def roundRadii : Entries String String :=
  [("none", "0"), ("sm", "0.125rem"), ("md", "0.375rem"), ("lg", "0.5rem"), ("xl", "0.75rem"),
    ("2xl", "1rem"), ("3xl", "1.5rem"), ("full", "9999px")]

def deepShadows : Entries String String :=
  [("sm", "0 1px 2px 0 rgb(0 0 0 / 0.05)"),
    ("md", "0 4px 6px -1px rgb(0 0 0 / 0.1), 0 2px 4px -2px rgb(0 0 0 / 0.1)"),
    ("lg", "0 10px 15px -3px rgb(0 0 0 / 0.1), 0 4px 6px -4px rgb(0 0 0 / 0.1)"),
    ("xl", "0 20px 25px -5px rgb(0 0 0 / 0.1), 0 8px 10px -6px rgb(0 0 0 / 0.1)"),
    ("2xl", "0 25px 50px -12px rgb(0 0 0 / 0.25)"),
    ("inner", "inset 0 2px 4px 0 rgb(0 0 0 / 0.05)"),
    ("none", "0 0 #0000")]

def breakpointScale : Entries String String :=
  [("sm", "640px"), ("md", "768px"), ("lg", "1024px"), ("xl", "1280px"), ("2xl", "1536px")]

def semanticColors (background surface primary secondary disabled : String) : Members :=
  [("success", "#10b981"), ("warning", "#f59e0b"), ("error", "#ef4444"), ("info", "#3b82f6"),
    ("background", background), ("surface", surface),
    ("text", .obj [("primary", primary), ("secondary", secondary), ("disabled", disabled)])]

/-- The typography around a primary font. -/
def typographyOf (primaryFont : String) : Typography where
  fontFamily := [("primary", primaryFont), ("secondary", "system-ui"), ("mono", "JetBrains Mono")]
  fontSize := fontSizes
  fontWeight := fontWeights
  lineHeight := lineHeightScale

/-- Bright sky-blue and yellow. -/
def modern : Theme where
  name := "modern"
  displayName := "Modern"
  description := "Bright sky-blue and yellow"
  colors :=
    { primary := Palette.ramp Palette.sky
      secondary := Palette.ramp Palette.yellow
      accent := warmAccent
      neutral := neutralRamp
      semantic := semanticColors "#ffffff" "#f9fafb" "#111827" "#6b7280" "#9ca3af" }
  typography := typographyOf "Inter"
  spacing := spacingScale
  borderRadius := roundRadii
  shadows := deepShadows
  breakpoints := breakpointScale
  baseClasses := "text-gray-900"

/-- Warm emerald and orange. -/
def cozy : Theme where
  name := "cozy"
  displayName := "Cozy"
  description := "Warm emerald and orange"
  colors :=
    { primary := Palette.ramp Palette.emerald
      secondary := Palette.ramp Palette.orange
      accent := warmAccent
      neutral := neutralRamp
      semantic := semanticColors "#fefdf8" "#f9fafb" "#1f2937" "#6b7280" "#9ca3af" }
  typography := typographyOf "Poppins"
  spacing := spacingScale
  borderRadius := roundRadii
  shadows := deepShadows
  breakpoints := breakpointScale
  baseClasses := "text-gray-800"
  radiusSteps := [("xl", "lg"), ("2xl", "xl")]
  shadowSteps := [("lg", "md"), ("xl", "lg")]

def flatRadii : Entries String String :=
  [("none", "0"), ("sm", "0.125rem"), ("md", "0.25rem"), ("lg", "0.375rem"), ("xl", "0.5rem"),
    ("2xl", "0.75rem"), ("3xl", "1rem"), ("full", "9999px")]

def flatShadows : Entries String String :=
  [("sm", "0 1px 2px 0 rgb(0 0 0 / 0.05)"),
    ("md", "0 2px 4px -1px rgb(0 0 0 / 0.1), 0 1px 2px -1px rgb(0 0 0 / 0.1)"),
    ("lg", "0 4px 6px -1px rgb(0 0 0 / 0.1), 0 2px 4px -2px rgb(0 0 0 / 0.1)"),
    ("xl", "0 8px 10px -3px rgb(0 0 0 / 0.1), 0 4px 6px -4px rgb(0 0 0 / 0.1)"),
    ("2xl", "0 12px 16px -4px rgb(0 0 0 / 0.1), 0 4px 6px -6px rgb(0 0 0 / 0.1)"),
    ("inner", "inset 0 1px 2px 0 rgb(0 0 0 / 0.05)"),
    ("none", "0 0 #0000")]

/-- Quiet slate with a blue secondary. -/
def minimal : Theme where
  name := "minimal"
  displayName := "Minimal"
  description := "Quiet slate with a blue secondary"
  colors :=
    { primary := Palette.ramp Palette.slate
      secondary := Palette.ramp Palette.blue
      accent := Palette.ramp Palette.sky
      neutral := Palette.ramp Palette.slate
      semantic := semanticColors "#ffffff" "#f8fafc" "#0f172a" "#475569" "#94a3b8" }
  typography := typographyOf "system-ui"
  spacing := spacingScale
  borderRadius := flatRadii
  shadows := flatShadows
  breakpoints := breakpointScale
  baseClasses := "text-slate-900"
  radiusSteps := [("xl", "md"), ("2xl", "lg"), ("3xl", "xl")]
  shadowSteps := [("lg", "sm"), ("xl", "md"), ("2xl", "lg")]

def builtin : List Theme := [modern, cozy, minimal]

end SiteTemplate.Theme
