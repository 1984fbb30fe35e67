import SiteTemplate.Project.Basic
import SiteTemplate.Text.Characters
import SiteTemplate.Text.Strings
import SiteTemplate.Validation.Rule

/-!
# Rules about markup

The rules look at the text of a file and not at a parse tree. A tag reaches from its name to the
next `>`, wherever that stands, and an attribute is any place inside it where the attribute's name
begins a word and an equals sign follows. Names of tags and attributes are compared without regard
to case.

Images have alternative texts, buttons have labels, and the main page has a heading. Titles and
descriptions are no longer than search engines show. Scripts come from files where inline scripts
are not allowed, and no file uses one of the patterns that let foreign code in.
-/

namespace SiteTemplate.Tag

open Text

def afterName? (name : String) (cs : List Char) : Option (List Char) := do
  let rest ← afterIgnoringCase? ("<" ++ name) cs
  if rest.head?.any isWordChar then none else some rest

def opening (name : String) : Recogniser Unit := fun _ cs => (afterName? name cs).map ((), ·)

/-- The text of a tag that stands before its `>`. -/
def inside (cs : List Char) : List Char := cs.takeWhile (· != '>')

def afterClose? (cs : List Char) : Option (List Char) := after? ">" (cs.dropWhile (· != '>'))

/-- Reads the name of an attribute at the start of a word, and its equals sign. -/
def attributeNamed (name : String) : Recogniser Unit := fun before cs => do
  let rest ← afterIgnoringCase? name cs
  if before.any isWordChar then none else (after? "=" (trimStart rest)).map ((), ·)

def hasAttribute (tag attr : String) (cs : List Char) : Bool :=
  ((attributeNamed attr).first? tag.toList.getLast? (inside cs)).isSome

/-- Reads a tag that lacks an attribute. -/
def lacking (tag attr : String) : Recogniser Unit := fun _ cs => do
  let rest ← afterName? tag cs
  let left ← afterClose? rest
  if hasAttribute tag attr rest then none else some ((), left)

/-- Reads a title and answers with its text, which holds no `<` and is not empty. -/
def title : Recogniser (List Char) := fun _ cs => do
  let rest ← afterIgnoringCase? "<title" cs
  let body ← afterClose? rest
  let text := body.takeWhile (· != '<')
  let left ← afterIgnoringCase? "</title>" (body.dropWhile (· != '<'))
  if text.isEmpty then none else some (text, left)

def isQuote (c : Char) : Bool := c == '"' || c == '\''

def afterQuote? : List Char → Option (List Char)
  | [] => none
  | c :: cs => if isQuote c then some cs else none

def descriptionName : Recogniser Unit := fun _ cs => do
  let cs ← afterQuote? (← afterIgnoringCase? "name=" cs)
  let left ← afterQuote? (← afterIgnoringCase? "description" cs)
  some ((), left)

/-- Reads a content between two quotation marks, which need not be of the same sort. -/
def quotedContent : Recogniser (List Char) := fun _ cs => do
  let cs ← afterQuote? (← afterIgnoringCase? "content=" cs)
  let value := cs.takeWhile (!isQuote ·)
  let left ← afterQuote? (cs.dropWhile (!isQuote ·))
  if value.isEmpty then none else some (value, left)

/-- What follows the first place inside a tag where a recogniser reads its form. -/
def afterFirst? {α : Type} (r : Recogniser α) : List Char → Option (List Char)
  | [] => none
  | c :: cs =>
    if c = '>' then none
    else match r none (c :: cs) with
      | some (_, left) => some left
      | none => afterFirst? r cs

def last? {α : Type} (r : Recogniser α) : List Char → Option (α × List Char)
  | [] => none
  | c :: cs => if c = '>' then none else (last? r cs).or (r none (c :: cs))

/-- Reads a tag that describes the page, and answers with the last content after the name that
marks it as such. -/
def description : Recogniser (List Char) := fun _ cs => do
  let rest ← afterIgnoringCase? "<meta" cs
  last? quotedContent (← afterFirst? descriptionName rest)

end SiteTemplate.Tag

namespace SiteTemplate.Accessibility

open Text

def ruleName : String := "accessibility"

def smallTextPx : Nat := 12

def isClassChar (c : Char) : Bool := isWordChar c || c == '-'

def smallTextClass : Recogniser Unit := fun before cs => do
  let rest ← after? "text-xs" cs
  if before.any isClassChar || rest.head?.any isClassChar then none else some ((), rest)

def missingAlt (f : ProcessedFile) : Option Issue :=
  Issue.atFirst? (Tag.lacking "img" "alt") ruleName .error f "Images missing alt attributes"
    "Add alt attributes to all images for accessibility"

/-- A button in a file without any label. -/
def missingLabel (a : AccessibilityConstraints) (f : ProcessedFile) : Option Issue :=
  if a.ariaRequired && !occursIn "aria-".toList f.content.toList then
    Issue.atFirst? (Tag.opening "button") ruleName .error f
      "Interactive elements missing aria labels"
      "Add aria labels to buttons and interactive elements"
  else none

def missingHeading (f : ProcessedFile) : Option Issue :=
  if occursIn "home".toList (lower f.path.toList)
      && !(Tag.opening "h1").occurs f.content.toList then
    some (Issue.onFile ruleName .error f "Missing H1 heading"
      "Add an H1 heading to the main page")
  else none

def smallText (a : AccessibilityConstraints) (f : ProcessedFile) : Option Issue :=
  if smallTextPx < a.minFontSizePx then
    Issue.atFirst? smallTextClass ruleName .warning f
      "Font size may be too small for accessibility"
      s!"Use font size at least {a.minFontSizePx}px"
  else none

def fileIssues (a : AccessibilityConstraints) (f : ProcessedFile) : List Issue :=
  if FileKind.isMarkup f.path then
    (missingAlt f).toList ++ (missingLabel a f).toList ++ (missingHeading f).toList
      ++ (smallText a f).toList
  else []

def rule : Rule := .perFile "AccessibilityRule" ruleName fun c f =>
  .ok ((c.a11y.map (fileIssues · f)).getD [])

end SiteTemplate.Accessibility

namespace SiteTemplate.Content

open Text

def ruleName : String := "content"

/-- An issue about the first text of a form that is longer than a limit. -/
def tooLong (r : Recogniser (List Char)) (limit : Nat) (f : ProcessedFile)
    (what inShort : String) : Option Issue :=
  (r.first? none f.content.toList).bind fun found =>
    if limit < found.value.length then
      some (Issue.atPlace ruleName .warning f found.offset
        s!"{what} too long: {found.value.length} characters (max: {limit})"
        s!"Shorten the {inShort} for better SEO")
    else none

def longTitle (seo : SeoConstraints) (f : ProcessedFile) : Option Issue :=
  tooLong Tag.title seo.titleMaxLen f "Title" "title"

def longDescription (seo : SeoConstraints) (f : ProcessedFile) : Option Issue :=
  tooLong Tag.description seo.descMaxLen f "Meta description" "meta description"

def missingTag (f : ProcessedFile) (tag : String) : Option Issue :=
  if occursIn tag.toList f.content.toList then none
  else some (Issue.onFile ruleName .warning f s!"Missing required meta tag: {tag}"
    s!"Add {tag} meta tag for better social sharing")

def fileIssues (seo : SeoConstraints) (f : ProcessedFile) : List Issue :=
  if FileKind.isMarkup f.path then
    (longTitle seo f).toList ++ (longDescription seo f).toList
      ++ seo.metaTags.filterMap (missingTag f)
  else []

def rule : Rule := .perFile "ContentRule" ruleName fun c f =>
  .ok ((c.content.map (fileIssues ·.seo f)).getD [])

end SiteTemplate.Content

namespace SiteTemplate.Security

open Text

def ruleName : String := "security"

def joined (first second : String) : Recogniser Unit := fun _ cs => do
  let rest ← after? first cs
  (after? second (trimStart rest)).map ((), ·)

def dangerous : List (Recogniser Unit) :=
  [joined "eval" "(", joined "innerHTML" "=", literal "document.write", literal "javascript:"]

/-- A script without a source. -/
def inlineScript (s : SecurityConstraints) (f : ProcessedFile) : Option Issue :=
  if s.disallowInlineScript then
    Issue.atFirst? (Tag.lacking "script" "src") ruleName .error f "Inline scripts detected"
      "Move inline scripts to external files for better security"
  else none

def danger (f : ProcessedFile) (r : Recogniser Unit) : Option Issue :=
  Issue.atFirst? r ruleName .warning f "Potentially dangerous code pattern detected"
    "Review and sanitize user input to prevent XSS attacks"

def fileIssues (s : SecurityConstraints) (f : ProcessedFile) : List Issue :=
  (inlineScript s f).toList ++ dangerous.filterMap (danger f)

def rule : Rule := .perFile "SecurityRule" ruleName fun c f =>
  .ok ((c.security.map (fileIssues · f)).getD [])

end SiteTemplate.Security
