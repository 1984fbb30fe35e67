import SiteTemplate.Json.Basic
import SiteTemplate.Text.Characters
import SiteTemplate.Theme.Basic

/-!
# Customizations of a theme

A caller may override tokens of a theme category by category. A customization holds the overrides
that were accepted, as settings applied one after the other, and the places of those that were
skipped because of their shape. Reading one overrides nothing else of the theme, and no token
disappears.
-/

namespace SiteTemplate

open Text

/-- Why a theme cannot be used. -/
inductive ThemeError where
  /-- A ramp step that looks like a number and cannot be read as one. -/
  | badStep (e : Json.BadIndex)
  /-- Overrides that no token can hold. -/
  | faults (fs : List Fault)
  /-- A ramp without a step that is needed. -/
  | missingStep (step : Int)
  /-- A name that no theme has. -/
  | unknown (name : String)
  /-- Text colours that are no object. -/
  | badTextColors
  /-- A value that is to be shown and holds a whole number of too many digits. -/
  | unwritable

def ThemeError.text : ThemeError → String
  | .badStep e => e.message
  | .faults fs => faultCount fs "Theme"
  | .missingStep step => toString step
  | .unknown name => s!"Theme '{name}' not found"
  | .badTextColors => "the text colors are not an object"
  | .unwritable => Text.unwritableMessage

/-- Overrides of a theme's tokens. -/
structure Customization where
  primary : List (Int × String) := []
  secondary : List (Int × String) := []
  accent : List (Int × String) := []
  neutral : List (Int × String) := []
  semantic : Members := []
  fontFamily : List (String × String) := []
  fontSize : List (String × String) := []
  fontWeight : List (String × Int) := []
  /-- The line heights; one that no token can hold is a fault. -/
  lineHeight : List (String × Reading Binary64) := []
  spacing : List (String × String) := []
  borderRadius : List (String × String) := []
  shadows : List (String × String) := []
  breakpoints : List (String × String) := []
  /-- The places of overrides that were skipped. -/
  skipped : List String := []

namespace Customization

/-- The overrides of one customization followed by those of another. -/
def append (a b : Customization) : Customization where
  primary := a.primary ++ b.primary
  secondary := a.secondary ++ b.secondary
  accent := a.accent ++ b.accent
  neutral := a.neutral ++ b.neutral
  semantic := a.semantic ++ b.semantic
  fontFamily := a.fontFamily ++ b.fontFamily
  fontSize := a.fontSize ++ b.fontSize
  fontWeight := a.fontWeight ++ b.fontWeight
  lineHeight := a.lineHeight ++ b.lineHeight
  spacing := a.spacing ++ b.spacing
  borderRadius := a.borderRadius ++ b.borderRadius
  shadows := a.shadows ++ b.shadows
  breakpoints := a.breakpoints ++ b.breakpoints
  skipped := a.skipped ++ b.skipped

instance : Append Customization := ⟨append⟩

def concat (cs : List Customization) : Customization := cs.foldl (· ++ ·) {}

def skip (place : String) : Customization := { skipped := [place] }

/-- The entries of an object that `accept` takes become overrides; the others are skipped. -/
def ofEntries {α : Type} (place : String) (accept : Json → Option α)
    (override : List (String × α) → Customization) : Json → Customization
  | .obj ms =>
    override (ms.filterMap fun (key, v) => (accept v).map (key, ·)) ++
      { skipped := (ms.filter fun (_, v) => (accept v).isNone).map fun (key, _) =>
          place ++ "." ++ key }
  | _ => skip place

/-- The number of a ramp step; `none` if the key has not the form of a number. -/
def step? (key : String) : Option (Except Json.BadIndex Int) :=
  if key != "" && key.toList.all isDigitForm then some ((Json.index? key).map Int.ofNat) else none

def ofRamp (place : String) (override : List (Int × String) → Customization) :
    Members → Except Json.BadIndex Customization
  | [] => .ok {}
  | (key, v) :: ms =>
    match step? key, v with
    | some (.ok step), .str color => do
      let more ← ofRamp place override ms
      pure (override [(step, color)] ++ more)
    | some (.error e), .str _ => .error e
    | _, _ => do
      let more ← ofRamp place override ms
      pure (skip (place ++ "." ++ key) ++ more)

/-- Overrides of the ramp of a group. -/
def rampSettings : ColorGroup → List (Int × String) → Customization
  | .primary, settings => { primary := settings }
  | .secondary, settings => { secondary := settings }
  | .accent, settings => { accent := settings }
  | .neutral, settings => { neutral := settings }

/-- The overrides of one group of colours; a group that no theme has does not count. -/
def ofColorGroup (group : String) (v : Json) : Except Json.BadIndex Customization :=
  let place := "colors." ++ group
  match ColorGroup.ofName? group, v with
  | some g, .obj ms => ofRamp place (rampSettings g) ms
  | some _, _ => .ok (skip place)
  | none, .obj ms => .ok (if group = "semantic" then { semantic := ms } else {})
  | none, _ => .ok (if group = "semantic" then skip place else {})

/-- The overrides of all groups of colours. -/
def ofColors : Members → Except Json.BadIndex Customization
  | [] => .ok {}
  | (group, v) :: ms => do
    let first ← ofColorGroup group v
    let more ← ofColors ms
    pure (first ++ more)

/-- A name in lower case with an underscore before every capital but the first letter. -/
def plainName (name : String) : String :=
  match name.toList with
  | [] => ""
  | c :: cs =>
    lowered (.ofList (c :: cs.flatMap fun c => if 'A' ≤ c && c ≤ 'Z' then ['_', c] else [c]))

def whole? : Json → Option Int
  | .int n => some n
  | _ => none

/-- A number, or the fault that it is too large. -/
def height? (v : Json) : Option (Reading Binary64) :=
  if v.isNumber then some (Read.float v) else none

/-- The overrides of one group of the typography; a group that no theme has does not count. -/
def ofTypographyGroup (group : String) (v : Json) : Customization :=
  let place := "typography." ++ group
  match plainName group with
  | "font_family" => ofEntries place Json.text? ({ fontFamily := · }) v
  | "font_size" => ofEntries place Json.text? ({ fontSize := · }) v
  | "font_weight" => ofEntries place whole? ({ fontWeight := · }) v
  | "line_height" => ofEntries place height? ({ lineHeight := · }) v
  | _ => {}

/-- The members of a category; a value that counts as absent has none. -/
def categoryMembers (c : Members) (category : String) : Customization × Members :=
  match Entries.get? c category with
  | none => ({}, [])
  | some v =>
    match v with
    | .obj ms => ({}, ms)
    | v => (if v.isTruthy then skip category else {}, [])

/-- The value of a scale: under its name on the wire, or else under its plain name. -/
def scaleValue (c : Members) (key : Key) : Json :=
  let value := (Entries.get? c key.wire).getD .null
  if value.isTruthy then value else (Entries.get? c key.name).getD .null

def ofScale (c : Members) (key : Key) (override : List (String × String) → Customization) :
    Customization :=
  match scaleValue c key with
  | .null => {}
  | v => ofEntries key.wire Json.text? override v

/-- Reads the overrides that a caller wrote. -/
def read (c : Members) : Except Json.BadIndex Customization := do
  let (skippedColors, groups) := categoryMembers c "colors"
  let colors ← ofColors groups
  let (skippedTypography, faces) := categoryMembers c "typography"
  pure (concat
    ([skippedColors, colors, skippedTypography]
      ++ faces.map (fun (group, v) => ofTypographyGroup group v)
      ++ [ofScale c (.single "spacing") ({ spacing := · }),
        ofScale c ⟨"border_radius", "borderRadius"⟩ ({ borderRadius := · }),
        ofScale c (.single "shadows") ({ shadows := · }),
        ofScale c (.single "breakpoints") ({ breakpoints := · })]))

def warnings (c : Customization) : List String :=
  c.skipped.map fun place => "Ignoring invalid theme customization '" ++ place ++ "'"

end Customization

namespace Theme

def lineHeights (t : Theme) (c : Customization) : Reading (Entries String Binary64) :=
  let heights := Entries.putAll (Entries.mapValues Reading.ok t.typography.lineHeight) c.lineHeight
  (Reading.all (heights.map fun (key, h) => (h.within (.key key)).map (key, ·))).within
    (.key "line_height") |>.within (.key "typography")

/-- A theme with overrides in place. -/
def override (t : Theme) (c : Customization) : Reading Theme :=
  (t.lineHeights c).map fun heights =>
    { t with
      colors :=
        { primary := Entries.putAll t.colors.primary c.primary
          secondary := Entries.putAll t.colors.secondary c.secondary
          accent := Entries.putAll t.colors.accent c.accent
          neutral := Entries.putAll t.colors.neutral c.neutral
          semantic := Entries.putAll t.colors.semantic c.semantic }
      typography :=
        { fontFamily := Entries.putAll t.typography.fontFamily c.fontFamily
          fontSize := Entries.putAll t.typography.fontSize c.fontSize
          fontWeight := Entries.putAll t.typography.fontWeight c.fontWeight
          lineHeight := heights }
      spacing := Entries.putAll t.spacing c.spacing
      borderRadius := Entries.putAll t.borderRadius c.borderRadius
      shadows := Entries.putAll t.shadows c.shadows
      breakpoints := Entries.putAll t.breakpoints c.breakpoints }

/-- A theme under the overrides that a caller wrote, with the warnings about those skipped. -/
def customized (t : Theme) (customizations : Members) : Except ThemeError (Theme × List String) :=
  match Customization.read customizations with
  | .error e => .error (.badStep e)
  | .ok c =>
    match (t.override c : Except (List Fault) Theme) with
    | .error fs => .error (.faults fs)
    | .ok t => .ok (t, c.warnings)

end Theme

end SiteTemplate
