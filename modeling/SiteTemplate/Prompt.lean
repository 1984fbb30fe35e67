import SiteTemplate.ClassToken
import SiteTemplate.Json.Writer
import SiteTemplate.Placeholder.Form
import SiteTemplate.Placeholder.Segment
import SiteTemplate.Text.Strings
import SiteTemplate.UserData

/-!
# Prompts and answers

The prompt for a placeholder tells the content model what is wanted, what is known of the business
and where the placeholder stands. An answer is cleaned of fences, quotes and talk before the value,
and is accepted if it has the shape that its kind of placeholder asks for.
-/

namespace SiteTemplate.Prompt

def unlines (lines : List String) : String := String.join (lines.map (· ++ "\n"))

def classReference : String := unlines
  ["## Colors",
    "- Primary: bg-blue-500, bg-blue-600, bg-blue-700, text-blue-500, text-blue-600, text-blue-700",
    "- Secondary: bg-gray-500, bg-gray-600, bg-gray-700, text-gray-500, text-gray-600, text-gray-700",
    "- Success: bg-green-500, bg-green-600, text-green-600",
    "- Warning: bg-yellow-500, bg-yellow-600, text-yellow-600",
    "- Danger: bg-red-500, bg-red-600, text-red-600",
    "- Accent: bg-orange-500, bg-orange-600, text-orange-600",
    "",
    "## Sizing",
    "- Padding: p-2, p-4, p-6, p-8, px-4, py-2",
    "- Margin: m-2, m-4, mx-auto, mt-4, mb-4",
    "- Width: w-full, w-auto, max-w-md, max-w-4xl, max-w-7xl",
    "- Height: h-auto, h-full, h-screen",
    "",
    "## Typography",
    "- Font Size: text-xs, text-sm, text-base, text-lg, text-xl, text-2xl, text-3xl, text-4xl",
    "- Font Weight: font-light, font-normal, font-medium, font-semibold, font-bold",
    "- Text Align: text-left, text-center, text-right",
    "- Line Height: leading-tight, leading-normal, leading-relaxed",
    "",
    "## Layout",
    "- Display: block, inline-block, flex, inline-flex, grid, hidden",
    "- Flexbox: flex-row, flex-col, justify-between, justify-center, items-center",
    "- Grid: grid-cols-1, grid-cols-2, grid-cols-3, gap-4, gap-6",
    "",
    "## Border & Effects",
    "- Radius: rounded, rounded-md, rounded-lg, rounded-xl, rounded-2xl, rounded-full",
    "- Shadow: shadow-sm, shadow, shadow-md, shadow-lg, shadow-xl",
    "- States: hover:bg-blue-600, hover:shadow-lg, focus:ring-2, focus:outline-none",
    "- Responsive: sm:, md:, lg:, xl:",
    "",
    "## Common Patterns",
    "- Button Primary: bg-blue-500 hover:bg-blue-600 text-white font-medium py-2 px-4 rounded-lg transition-colors duration-200",
    "- Button Secondary: bg-gray-200 hover:bg-gray-300 text-gray-800 font-medium py-2 px-4 rounded-lg transition-colors duration-200",
    "- Card: bg-white shadow-md rounded-lg p-6 border border-gray-200 hover:shadow-lg transition-shadow duration-200",
    "- Input: border border-gray-300 rounded-md px-3 py-2 focus:outline-none focus:ring-2 focus:ring-blue-500",
    "- Navigation: bg-white shadow-sm border-b border-gray-200 px-4 py-2",
    "- Footer: bg-gray-800 text-gray-200 py-8 px-4",
    "- Container: max-w-7xl mx-auto px-4 sm:px-6 lg:px-8"]

open Text

def inline (ms : Members) : String := (Json.obj ms).render .spaced

def profile (b : Business) (context : String) : String := unlines
  ["Business profile:", "- Brand: " ++ b.brandName, "- Business type: " ++ b.businessType,
    "- Tone: " ++ b.tone, "- Target audience: " ++ b.targetAudience,
    "- Context: " ++ (if context = "" then "general" else context)]

def forText (b : Business) (profile extra : String) : String := unlines
  ["Write a piece of website copy for " ++ b.brandName ++ ".", "", profile,
    "Additional content: " ++ extra, "",
    "The copy must suit a " ++ b.businessType ++ " business, use a " ++ b.tone ++ " tone, be easy",
    "to read and highlight the value of the product or service.", "",
    "Reply with one short line of at most 100 characters."]

def forImage (b : Business) (profile extra : String) : String := unlines
  ["Suggest an image URL for the " ++ b.brandName ++ " website.", "", profile,
    "Known images: " ++ extra, "",
    "The image must suit a " ++ b.businessType ++ " business and the brand " ++ b.brandName ++ ".",
    "Use a placeholder image service with a sensible size (800x600 or 400x300).", "",
    "Reply with the URL only."]

def forData (b : Business) (profile extra key : String) : String := unlines
  ["Produce the value for the data field \"" ++ key ++ "\" of the " ++ b.brandName ++ " website.",
    "", profile, "Additional content: " ++ extra, "",
    "The value must suit a " ++ b.businessType ++ " business and be meaningful for \"" ++ key
      ++ "\".", "",
    "Reply with one short line of at most 50 characters."]

def forSlot (b : Business) (profile extra key : String) : String := unlines
  ["Produce the content for slot \"" ++ key ++ "\" of the " ++ b.brandName ++ " website.", "",
    profile, "Current slot data: " ++ extra, "",
    "The content must suit a " ++ b.businessType ++ " business and fit slot \"" ++ key ++ "\".", "",
    "Reply with one short line of at most 100 characters."]

def forClasses (b : Business) (profile extra reference : String) : String := unlines
  ["Choose Tailwind CSS classes for an element of the " ++ b.brandName ++ " website.", "", profile,
    "Theme: " ++ b.theme, "Theme customizations: " ++ extra, "", reference, "",
    "The classes must suit a " ++ b.businessType ++ " business and the \"" ++ b.theme
      ++ "\" theme,",
    "be valid Tailwind CSS utilities and follow the common pattern that best",
    "matches the context.", "",
    "Reply with the space-separated class list only."]

def forOther (b : Business) (profile extra kind : String) : String := unlines
  ["Produce content for a \"" ++ kind ++ "\" placeholder on the " ++ b.brandName ++ " website.", "",
    profile, "Additional content: " ++ extra, "",
    "Reply with one short line of at most 100 characters."]

/-- The prompts with the reference of classes that they quote. -/
structure Library where
  reference : String := classReference
deriving DecidableEq

namespace Library

def addPattern (l : Library) (name classes : String) : Library where
  reference :=
    .ofList (trimEnd l.reference.toList) ++ "\n- " ++ name ++ ": " ++ classes ++ "\n"

def prompt (l : Library) (p : Placeholder) (b : Business) (d : UserData) (context : String) :
    String :=
  let profile := profile b context
  let key := p.key.getD ""
  match p.kind with
  | .text => forText b profile (inline d.content)
  | .img => forImage b profile (inline d.images)
  | .data => forData b profile (inline d.content) key
  | .slot => forSlot b profile (inline d.slots) key
  | .tw => forClasses b profile (inline d.customizations) l.reference

/-- The prompt for a kind that is no placeholder kind. -/
def promptForOther (kind : String) (b : Business) (d : UserData) (context : String) : String :=
  forOther b (profile b context) (inline d.content) kind

end Library

end SiteTemplate.Prompt

namespace SiteTemplate.Answer

open Text

def fence : String := "\x60\x60\x60"

def isTagChar (c : Char) : Bool := isWordChar c || c == '-'

/-- A text without the code fence with which it starts and, if it has one, the fence that ends
it. -/
def dropFence (cs : List Char) : List Char :=
  match after? fence cs with
  | none => cs
  | some rest =>
    let inner := trimStart (rest.dropWhile isTagChar)
    let inner :=
      if endsWith fence inner then trimEnd (inner.take (inner.length - fence.length)) else inner
    trim inner

def isQuote (c : Char) : Bool := c == '"' || c == '\'' || c == '\x60'

/-- A text without one pair of equal quotes around it. -/
def dropQuotes (cs : List Char) : List Char :=
  match cs with
  | [] => []
  | q :: rest =>
    if isQuote q && rest.getLast? == some q then trim rest.dropLast else cs

def clean (answer : String) : String :=
  .ofList (dropQuotes (dropFence (trim answer.toList)))

inductive Shape where
  | classes
  | url
  | line
deriving DecidableEq, Repr

def maxLineLength : Nat := 300

def isUrlChar (c : Char) : Bool := !isBlank c && !"\"'<>".toList.contains c

/-- Whether a text is the URL of a web page; one line end may follow. -/
def isUrl (cs : List Char) : Bool :=
  match (after? "http://" cs).or (after? "https://" cs) with
  | some rest => !(rest.takeWhile isUrlChar).isEmpty && atTextEnd (rest.dropWhile isUrlChar)
  | none => false

/-- Whether a text is a line that is not too long and holds neither a tag nor double braces. -/
def isLine (cs : List Char) : Bool :=
  !cs.isEmpty && !cs.contains '\n' && cs.length ≤ maxLineLength && !cs.contains '<'
    && !occursIn ['\x7b', '\x7b'] cs && !occursIn ['\x7d', '\x7d'] cs

def Shape.fits : Shape → String → Bool
  | .classes, s => ClassToken.isClassList ClassToken.maxTokens s
  | .url, s => isUrl s.toList
  | .line, s => isLine s.toList

def shapeFor : Placeholder.Kind → Shape
  | .tw => .classes
  | .img => .url
  | .text | .data | .slot => .line

def accepts (k : Placeholder.Kind) (s : String) : Bool := (shapeFor k).fits s

end SiteTemplate.Answer
