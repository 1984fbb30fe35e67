import SiteTemplate.ClassToken
import SiteTemplate.Json.Writer
import SiteTemplate.Theme.Basic
import SiteTemplate.Theme.Builtin
import SiteTemplate.Theme.Customization

/-!
# The registry of themes

A registry holds complete themes by name, one of which is its default. A missing name stands for the
default, and an unknown one for the fallback, which is the theme `modern` where it is registered.
The style sheet of a theme sets one variable for each of its values.
-/

namespace SiteTemplate

open Text ClassToken

/-- A hash sign with three or six hexadecimal digits; one line end may follow. -/
def isHexColor (color : String) : Bool :=
  match color.toList with
  | '#' :: cs =>
    let digits := cs.takeWhile isHexDigit
    (digits.length == 3 || digits.length == 6) && atTextEnd (cs.dropWhile isHexDigit)
  | _ => false

def Ramp.isComplete (r : Ramp) : Bool :=
  Palette.steps.all (Entries.has r) && (Entries.values r).all isHexColor

/-- Whether all ramps are complete and a primary font and font sizes are there. -/
def Theme.isComplete (t : Theme) : Bool :=
  ColorGroup.all.all (fun g => Ramp.isComplete (t.colors.ramp g)) && t.primaryFont != ""
    && !t.typography.fontSize.isEmpty

end SiteTemplate

namespace SiteTemplate

inductive RegistryError where
  /-- The default is not among the themes. -/
  | noDefault (name : String)
  /-- A theme that is to be added is not complete. -/
  | incomplete (name : String)
deriving DecidableEq, Repr

def RegistryError.message : RegistryError → String
  | .noDefault name => "Default theme '" ++ name ++ "' is not in the registry"
  | .incomplete name => "Theme '" ++ name ++ "' is incomplete"

structure ThemeRegistry where
  themes : Entries String Theme
  default : String
  default_registered : Entries.has themes default = true

namespace ThemeRegistry

/-- The registry of a list of themes; of themes with one name the last counts. -/
def ofThemes (themes : List Theme) (default : String) : Except RegistryError ThemeRegistry :=
  let catalogue := Entries.ofList (themes.map fun t => (t.name, t))
  if h : Entries.has catalogue default = true then .ok ⟨catalogue, default, h⟩
  else .error (.noDefault default)

def builtin : ThemeRegistry where
  themes := [("modern", Theme.modern), ("cozy", Theme.cozy), ("minimal", Theme.minimal)]
  default := "modern"
  default_registered := rfl

def names (r : ThemeRegistry) : List String := Entries.keys r.themes

def get? (r : ThemeRegistry) (name : String) : Option Theme := Entries.get? r.themes name

def defaultTheme (r : ThemeRegistry) : Theme :=
  (Entries.get? r.themes r.default).get r.default_registered

def fallback (r : ThemeRegistry) : String :=
  if Entries.has r.themes "modern" then "modern" else r.default

theorem fallback_registered (r : ThemeRegistry) : Entries.has r.themes r.fallback = true := by
  unfold fallback
  split
  · assumption
  · exact r.default_registered

def fallbackTheme (r : ThemeRegistry) : Theme :=
  (Entries.get? r.themes r.fallback).get r.fallback_registered

/-- The theme that a name asks for. -/
def resolve (r : ThemeRegistry) (name : Option String) : Theme :=
  match name with
  | none => r.defaultTheme
  | some name =>
    match r.get? name with
    | some t => t
    | none => if name = "" then r.defaultTheme else r.fallbackTheme

def knows (r : ThemeRegistry) (name : Option String) : Bool := name.any (Entries.has r.themes)

def withTheme (r : ThemeRegistry) (t : Theme) : Except RegistryError ThemeRegistry :=
  if t.isComplete then
    .ok ⟨Entries.put t.name t r.themes, r.default, Entries.has_put r.default_registered⟩
  else .error (.incomplete t.name)

def customized (r : ThemeRegistry) (name : Option String) (customizations : Members) :
    Except ThemeError (Theme × List String) :=
  (r.resolve name).customized customizations

end ThemeRegistry

namespace Theme

def color (t : Theme) (g : ColorGroup) (step : Int) : Except ThemeError String :=
  match Entries.get? (t.colors.ramp g) step with
  | some c => .ok c
  | none => .error (.missingStep step)

/-- The places of the forty colours, group by group. -/
def colorPlaces : List (ColorGroup × Int) :=
  ColorGroup.all.flatMap fun g => Palette.steps.map (g, ·)

def declaration (property value : String) : String := "  --" ++ property ++ ": " ++ value ++ ";"

def colorDeclarations (t : Theme) : Except ThemeError (List String) :=
  colorPlaces.mapM fun (g, step) =>
    (t.color g step).map (declaration ("color-" ++ g.name ++ "-" ++ toString step))

def font (t : Theme) (role standIn : String) : String :=
  (Entries.get? t.typography.fontFamily role).getD standIn

def scaleDeclarations (name : String) (scale : Entries String String) : List String :=
  scale.map fun (key, value) => declaration (name ++ "-" ++ key) value

/-- The declarations of everything but the colours. -/
def tokenDeclarations (t : Theme) : List String :=
  [declaration "font-family-primary"
      ("'" ++ t.font "primary" "system-ui" ++ "', system-ui, sans-serif"),
    declaration "font-family-secondary"
      ("'" ++ t.font "secondary" "system-ui" ++ "', system-ui, sans-serif"),
    declaration "font-family-mono" ("'" ++ t.font "mono" "monospace" ++ "', monospace")]
    ++ scaleDeclarations "spacing" t.spacing ++ scaleDeclarations "radius" t.borderRadius
    ++ scaleDeclarations "shadow" t.shadows

/-- The colours of text by their strength. -/
def textColors (t : Theme) : Except ThemeError Members :=
  match Entries.get? t.colors.semantic "text" with
  | some (.obj ms) => .ok ms
  | some v => if v.isTruthy then .error .badTextColors else .ok []
  | none => .ok []

/-- A value as it is shown in messages, or the one that stands in for it. -/
def shownOr (ms : Members) (key standIn : String) : Except ThemeError String :=
  match Entries.get? ms key with
  | some v => if v.fits then .ok v.display else .error .unwritable
  | none => .ok standIn

def title (t : Theme) : String := if t.displayName = "" then t.name else t.displayName

def stylesheet (t : Theme) : Except ThemeError String := do
  let colors ← t.colorDeclarations
  let background ← shownOr t.colors.semantic "background" "#ffffff"
  let textColors ← t.textColors
  let text ← shownOr textColors "primary" "#111827"
  pure ("\n".intercalate
    (["/* " ++ t.title ++ " Theme */", ":root \x7b"] ++ colors ++ t.tokenDeclarations
      ++ ["\x7d", "", "body \x7b", "  font-family: var(--font-family-primary);",
        "  background-color: " ++ background ++ ";", "  color: " ++ text ++ ";", "\x7d", ""]))

end Theme

def ThemeRegistry.stylesheet (r : ThemeRegistry) (name : String) (customizations : Members) :
    Except ThemeError String :=
  match r.get? name with
  | none => .error (.unknown name)
  | some t => do
    let (t, _) ← t.customized customizations
    t.stylesheet

end SiteTemplate
