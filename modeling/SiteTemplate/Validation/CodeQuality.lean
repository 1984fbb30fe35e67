import SiteTemplate.Project.Basic
import SiteTemplate.Text.Characters
import SiteTemplate.Text.Strings
import SiteTemplate.Validation.MarkupRules
import SiteTemplate.Validation.Rule

/-!
# Code quality

Typed scripts use no `any` type and no import in vain, where the constraints ask for type checks;
no file keeps its console logging.

An import statement starts a line, after blanks that may span lines. It names what it imports
between braces, the first of which stands on its first line before any semicolon, and goes on with
`from` and all that follows on that line. A name is used when it occurs, as a whole identifier, in
the text that is left once the statements are taken out.
-/

namespace SiteTemplate.NamedImport

open Text

def endsPart (c : Char) : Bool := c == ';' || c == '\n'

/-- What follows the source of a statement, given what follows `from`: at least one blank, and
something up to the end of a line. Where only blanks are left, the last that ends no line is the
source. -/
def afterSource? (cs : List Char) : Option (List Char) :=
  let rest := trimStart cs
  if rest.length = cs.length then none
  else if !rest.isEmpty then some (rest.dropWhile (· != '\n'))
  else
    let closing := cs.reverse.takeWhile (· == '\n')
    if closing.length + 1 < cs.length then some closing else none

/-- What follows a statement, given what follows its names. -/
def afterNames? : List Char → Option (List Char)
  | [] => none
  | c :: cs =>
    match (after? "from" (c :: cs)).bind afterSource? with
    | some left => some left
    | none => if endsPart c then none else afterNames? cs

/-- The text between the braces of a statement and what follows the statement, given what follows
its opening word. -/
def braced? : List Char → Option (List Char × List Char)
  | [] => none
  | c :: cs =>
    let names := cs.takeWhile (· != '\x7d')
    let found :=
      if c = '\x7b' && !names.isEmpty then
        (after? "\x7d" (cs.dropWhile (· != '\x7d'))).bind afterNames?
      else none
    match found with
    | some left => some (names, left)
    | none => if endsPart c then none else braced? cs

def afterOpening? (cs : List Char) : Option (List Char) := do
  let rest ← afterSome? isBlank (← after? "import" (trimStart cs))
  some (((after? "type" rest).bind (afterSome? isBlank)).getD rest)

/-- Reads a statement at the start of a line and answers with the text between its braces. -/
def statement : Recogniser (List Char) := fun before cs =>
  if before.any (· != '\n') then none else (afterOpening? cs).bind braced?

/-- What follows the first occurrence of a literal. -/
def afterOccurrence? (lit : String) : List Char → Option (List Char)
  | [] => none
  | c :: cs =>
    match after? lit (c :: cs) with
    | some rest => some rest
    | none => afterOccurrence? lit cs

/-- The name under which an item is known in the script; it may be empty. -/
def localName (item : List Char) : List Char :=
  let item := trim item
  let item := ((after? "type " item).map trim).getD item
  ((afterOccurrence? " as " item).map trim).getD item

def namesIn (braced : List Char) : List (List Char) :=
  ((braced.splitOnP (· == ',')).map localName).filter (!·.isEmpty)

def all (content : List Char) : List (Found (List Char)) :=
  (statement.all content).flatMap fun s => (namesIn s.value).map fun name => ⟨s.offset, name⟩

/-- The script without its import statements. -/
def body (content : List Char) : List Char := statement.eraseFrom none content

def isIdentifierChar (c : Char) : Bool := isWordChar c || c == '$'

def whole (name : List Char) : Recogniser Unit := fun before cs => do
  let rest ← name.isPrefixOf? cs
  if before.any isIdentifierChar || rest.head?.any isIdentifierChar then none else some ((), rest)

def unused (content : List Char) : List (Found (List Char)) :=
  let rest := body content
  (all content).filter fun i => !(whole i.value).occurs rest

end SiteTemplate.NamedImport

namespace SiteTemplate.CodeQuality

open Text

def ruleName : String := "code-quality"

def anyType : Recogniser Unit := fun before cs => do
  let ((), rest) ← Security.joined ":" "any" before cs
  if rest.head?.any isWordChar then none else some ((), rest)

def looseType (f : ProcessedFile) : Option Issue :=
  Issue.atFirst? anyType ruleName .info f "TypeScript any type detected"
    "Consider using more specific types instead of any"

def unusedImport (f : ProcessedFile) (i : Found (List Char)) : Issue :=
  let name := String.ofList i.value
  Issue.atPlace ruleName .info f i.offset s!"Unused import: {name}"
    s!"Remove unused import: {name}"

def logging (f : ProcessedFile) : Option Issue :=
  Issue.atFirst? (Security.joined "console.log" "(") ruleName .info f
    "Console.log statements found" "Remove console.log statements before production"

def fileIssues (c : CodeConstraints) (f : ProcessedFile) : List Issue :=
  let typed :=
    if c.tsc && FileKind.isScript f.path then
      (looseType f).toList ++ (NamedImport.unused f.content.toList).map (unusedImport f)
    else []
  typed ++ (logging f).toList

def rule : Rule := .perFile "CodeQualityRule" ruleName fun c f =>
  .ok ((c.code.map (fileIssues · f)).getD [])

end SiteTemplate.CodeQuality
