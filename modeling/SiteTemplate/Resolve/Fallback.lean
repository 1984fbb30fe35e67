import SiteTemplate.ClassToken
import SiteTemplate.Codec
import SiteTemplate.Json.Basic
import SiteTemplate.Json.Writer
import SiteTemplate.Placeholder.Segment
import SiteTemplate.Theme.Registry
import SiteTemplate.UserData

/-!
# Values without the content model

The markup around a placeholder tells which kind of element is being built. A request holds
everything that a step may look at to find the value of a placeholder, and a step resolves the
placeholder, leaves it open, or fails.

Every kind of placeholder has a value that follows from the caller's data and the theme alone. It
cannot be given where the theme lacks a colour, where a segment of the key cannot be read as an
index, and where the value holds a whole number with too many digits to be written.
-/

namespace SiteTemplate

open Text

/-- The kinds of elements that are told apart. -/
inductive Element where
  | button
  | heading
  | card
  | header
  | footer
  | generic
deriving DecidableEq, Repr

namespace Element

def name : Element → String
  | .button => "button"
  | .heading => "heading"
  | .card => "card"
  | .header => "header"
  | .footer => "footer"
  | .generic => "generic"

/-- The element in which a place stands. -/
def ofContext (c : Context) : Element :=
  match lowered (c.tagName.getD "") with
  | "button" => .button
  | "h1" | "h2" | "h3" => .heading
  | "header" => .header
  | "footer" => .footer
  | "div" => if occursIn "card".toList (c.classHint.getD "").toList then .card else .generic
  | _ => .generic

/-- The classes of a button, given the names of its colours at rest and under the pointer. -/
def buttonClasses (rest hover : String) : String :=
  "bg-" ++ rest ++ " hover:bg-" ++ hover
    ++ " text-white px-4 py-2 rounded-lg font-medium transition-colors"

def classes (e : Element) (t : Theme) : Except ThemeError String :=
  match e with
  | .button => do
    let rest ← t.color .primary 600
    let hover ← t.color .primary 700
    pure (buttonClasses (Palette.colorName rest) (Palette.colorName hover))
  | .heading => .ok "text-3xl md:text-4xl font-semibold leading-tight"
  | .card => .ok "bg-white shadow-md rounded-lg p-6"
  | .header => .ok "bg-white border-b shadow-sm"
  | .footer => .ok "bg-gray-900 text-gray-200"
  | .generic => .ok ""

end Element

namespace Placeholder

def element (p : Placeholder) : Element := .ofContext p.context

def quotedSnippet : Nat := 120

private def part (value : String) (wording : String) : List String :=
  if value = "" then [] else [wording]

/-- Where a placeholder stands, in words. -/
def place (p : Placeholder) : String :=
  let c := p.context
  let tag := c.tagName.getD ""
  let hint := c.classHint.getD ""
  let key := p.key.getD ""
  let nearest := String.ofList (Markup.lastChars quotedSnippet c.snippet.toList)
  "; ".intercalate
    (part c.file ("file " ++ c.file ++ " line " ++ toString p.line)
      ++ part tag ("inside <" ++ tag ++ ">") ++ part hint ("with classes '" ++ hint ++ "'")
      ++ part key ("key '" ++ key ++ "'") ++ part c.snippet ("preceded by: " ++ nearest))

end Placeholder

end SiteTemplate

namespace SiteTemplate

/-- What is known when the value of a placeholder is sought. -/
structure Request where
  placeholder : Placeholder
  userData : UserData
  context : String := ""
  filledSlots : Members := []
  theme : Theme

structure Resolution where
  value : String
  source : String := ""
deriving DecidableEq, Repr

/-- What comes of a step. -/
inductive Outcome where
  | resolved (r : Resolution)
  | unresolved
  /-- A failure, with the name of the step and the text of its error. -/
  | failed (step message : String)
deriving DecidableEq, Repr

abbrev Step := Request → Outcome

end SiteTemplate

namespace SiteTemplate.Fallback

open Text

def brand (defaultBrand : String) (d : UserData) : String :=
  Business.textOr defaultBrand d.brandName

/-- The text of last resort, in words that suit the element. -/
def defaultText (defaultBrand : String) (q : Request) : String :=
  let brand := brand defaultBrand q.userData
  match q.placeholder.element with
  | .heading => "Welcome to " ++ brand
  | .button => "Shop " ++ brand
  | _ => brand ++ " - quality you can trust"

/-- A value that is there, not null and not the empty text. -/
def textCandidate? (ms : Members) : Option Json :=
  (Entries.get? ms "text").filter fun v =>
    match v with
    | .null => false
    | .str s => s != ""
    | _ => true

/-- A value as it is pasted, or the text of the error where it cannot be. -/
def pasted (v : Json) : Except String String :=
  match v.paste? with
  | some s => .ok s
  | none => .error unwritableMessage

/-- The caller's text, earlier text of the content model coming first, or else the text of last
resort. -/
def text (defaultBrand : String) (q : Request) : Except String String :=
  match (textCandidate? q.userData.aiContent).or (textCandidate? q.userData.content) with
  | some v => pasted v
  | none => .ok (defaultText defaultBrand q)

def classes (q : Request) : Except ThemeError String :=
  (q.placeholder.element.classes q.theme).map fun classes =>
    ClassToken.merge [q.theme.baseClasses, classes]

/-- A text that is not blank, without the blanks around it. -/
def url? (v : Option Json) : Option String :=
  ((v.bind (·.text?)).map trimmed).filter (· != "")

def imageUrl (text : String) : String :=
  "https://via.placeholder.com/800x600/3b82f6/ffffff?text="
    ++ .ofList (Percent.encode text.toList)

def image (defaultBrand : String) (q : Request) : String :=
  ((url? (Entries.get? q.userData.images "url")).or
    (url? (Entries.get? q.userData.aiContent "imageUrl"))).getD
      (imageUrl (brand defaultBrand q.userData))

def key (q : Request) : String := q.placeholder.key.getD ""

/-- The value at the key, or else what `otherwise` gives. -/
def found (q : Request) (source : Members) (otherwise : Except String String) :
    Except String String :=
  match (Json.obj source).present? (key q) with
  | .ok (some v) => pasted v
  | .ok none => otherwise
  | .error e => .error e.message

def lookup (defaultBrand : String) (q : Request) (source : Members) : Except String String :=
  if key q = "" then text defaultBrand q else found q source (text defaultBrand q)

/-- The value of a slot: that of the filled slots, or else what the caller wrote. -/
def slot (defaultBrand : String) (q : Request) : Except String String :=
  found q q.filledSlots (lookup defaultBrand q q.userData.slots)

/-- The value of a placeholder, or the text of the error where there is none. -/
def value (defaultBrand : String) (q : Request) : Except String String :=
  match q.placeholder.kind with
  | .tw => (classes q).mapError (·.text)
  | .img => .ok (image defaultBrand q)
  | .data => lookup defaultBrand q q.userData.dynamicData
  | .slot => slot defaultBrand q
  | .text => text defaultBrand q

end SiteTemplate.Fallback
