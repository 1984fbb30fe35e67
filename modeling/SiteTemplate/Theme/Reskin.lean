import SiteTemplate.ClassToken
import SiteTemplate.Console.Printer
import SiteTemplate.Text.Characters
import SiteTemplate.Theme.Registry

/-!
# Exchanging classes for those of a theme

Every maximal run of characters between delimiters is looked at once. Its variants are kept, and
its utility is exchanged if it is, as a whole, a colour of one of three families, one of two fonts,
or a radius or shadow step that the theme exchanges.
-/

namespace SiteTemplate

open Text

/-- What a theme puts in the place of the classes that it exchanges. -/
structure Skin where
  /-- The names of the colours that take the place of the families blue, yellow and orange. -/
  primary : String
  secondary : String
  accent : String
  /-- The primary font; empty if fonts are left alone. -/
  font : String
  radiusSteps : Entries String String
  shadowSteps : Entries String String
deriving DecidableEq, Repr

namespace Skin

def ofTheme (t : Theme) : Except ThemeError Skin := do
  let primary ← t.color .primary 600
  let secondary ← t.color .secondary 500
  let accent ← t.color .accent 500
  pure
    { primary := Palette.colorName primary
      secondary := Palette.colorName secondary
      accent := Palette.colorName accent
      font := t.primaryFont
      radiusSteps := t.radiusSteps
      shadowSteps := t.shadowSteps }

def isDelimiter (c : Char) : Bool := isBlank c || "\"'\x60\x7b\x7d<>=(),;".toList.contains c

/-- The colour that takes the place of a family after a stem. -/
def familyColor? (s : Skin) (stem : String) : String → Option String
  | "blue" => if ["bg", "text", "border"].contains stem then some s.primary else none
  | "yellow" => if ["bg", "text"].contains stem then some s.secondary else none
  | "orange" => if ["bg", "text"].contains stem then some s.accent else none
  | _ => none

def familySteps : List String :=
  ["50", "100", "200", "300", "400", "500", "600", "700", "800", "900", "950"]

def isOpacityMark (cs : List Char) : Bool := cs.isEmpty || ClassToken.isOpacity cs

/-- A text up to a hyphen, and what follows the hyphen. -/
def splitHyphen (cs : List Char) : String × List Char :=
  (.ofList (cs.takeWhile (· != '-')), (cs.dropWhile (· != '-')).drop 1)

/-- A colour utility in the colours of the theme. -/
def color? (s : Skin) (utility : List Char) : Option (List Char) :=
  let (mark, body) := match utility with
    | '!' :: rest => (['!'], rest)
    | cs => ([], cs)
  let (stem, rest) := splitHyphen body
  let (family, rest) := splitHyphen rest
  let step := rest.takeWhile (· != '/')
  let opacity := rest.dropWhile (· != '/')
  if familySteps.contains (String.ofList step) && isOpacityMark opacity then
    (s.familyColor? stem family).map fun color =>
      mark ++ stem.toList ++ '-' :: color.toList ++ opacity
  else none

def font? (s : Skin) (utility : List Char) : Option (List Char) :=
  if (utility == "font-[Inter]".toList || utility == "font-[Poppins]".toList) && s.font != "" then
    some ("font-['".toList ++ s.font.toList ++ "']".toList)
  else none

def isStepChar (c : Char) : Bool := ('a' ≤ c && c ≤ 'z') || isAsciiDigit c

def exchange? (steps : Entries String String) (step : List Char) : Option String :=
  if !step.isEmpty && step.all isStepChar then Entries.get? steps (.ofList step) else none

def radiusSides : List String := ["t", "r", "b", "l", "s", "e", "tl", "tr", "bl", "br"]

/-- A radius utility with the step of the theme. -/
def radius? (s : Skin) (utility : List Char) : Option (List Char) := do
  let rest ← after? "rounded-" utility
  let (side, step) := splitHyphen rest
  if rest.contains '-' then
    if radiusSides.contains side then
      (exchange? s.radiusSteps step).map fun step =>
        "rounded-".toList ++ side.toList ++ '-' :: step.toList
    else none
  else (exchange? s.radiusSteps rest).map fun step => "rounded-".toList ++ step.toList

def shadow? (s : Skin) (utility : List Char) : Option (List Char) := do
  let step ← after? "shadow-" utility
  (exchange? s.shadowSteps step).map fun step => "shadow-".toList ++ step.toList

def utility? (s : Skin) (utility : List Char) : Option (List Char) :=
  (s.color? utility).or ((s.font? utility).or ((s.radius? utility).or (s.shadow? utility)))

def token (s : Skin) (cs : List Char) : List Char :=
  let (variants, utility) := ClassToken.splitVariants cs
  match s.utility? utility with
  | some exchanged => variants ++ exchanged
  | none => cs

/-- The run of other characters before the first delimiter, and every delimiter with the run after
it. -/
def runs : List Char → List Char × List (Char × List Char)
  | [] => ([], [])
  | c :: cs =>
    let (run, more) := runs cs
    if isDelimiter c then ([], (c, run) :: more) else (c :: run, more)

def wear (s : Skin) (cs : List Char) : List Char :=
  let (run, more) := runs cs
  s.token run ++ more.flatMap fun (delimiter, run) => delimiter :: s.token run

/-- The runs of two texts around a delimiter. -/
theorem runs_append_delimiter {d : Char} (h : isDelimiter d = true) (a b : List Char) :
    runs (a ++ d :: b) = ((runs a).1, (runs a).2 ++ (d, (runs b).1) :: (runs b).2) := by
  induction a with
  | nil => simp [runs, h]
  | cons c cs ih => by_cases hc : isDelimiter c = true <;> simp [runs, ih, hc]

end Skin

def Theme.reskin (t : Theme) (text : String) : Except ThemeError String :=
  (Skin.ofTheme t).map fun s => .ofList (s.wear text.toList)

namespace ThemeRegistry

/-- A text in the skin of the customized theme that a name asks for. -/
def reskin (r : ThemeRegistry) (text : String) (name : Option String)
    (customizations : Members) : Except ThemeError String := do
  let (t, _) ← r.customized name customizations
  t.reskin text

def unknownNotice (name : Option String) (t : Theme) : String :=
  "  [yellow]Unknown theme '" ++ name.getD "None" ++ "', using '" ++ t.name ++ "'[/yellow]"

/-- The notices about a name; a missing one and an empty one count as unknown. -/
def nameNotices (r : ThemeRegistry) (name : Option String) (t : Theme) : List String :=
  if r.knows name && name != some "" then [] else [unknownNotice name t]

inductive ApplyError where
  | theme (e : ThemeError)
  /-- The notice about a name cannot be printed. -/
  | unprintable (message : String)

/-- Puts a text into the skin of the theme that a name asks for, and tells of a name that no theme
has. -/
def apply (r : ThemeRegistry) (printer : Printer) (text : String) (name : Option String)
    (customizations : Members) : Except ApplyError String := do
  let (t, _) ← (r.customized name customizations).mapError .theme
  (printer.printAll (r.nameNotices name t)).mapError .unprintable
  (t.reskin text).mapError .theme

end ThemeRegistry

end SiteTemplate
