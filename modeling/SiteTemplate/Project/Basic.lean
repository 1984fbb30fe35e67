import SiteTemplate.Record
import SiteTemplate.Text.Characters
import SiteTemplate.Text.Strings

/-!
# Projects and their issues

A finished project holds the processed files, a manifest, what is known about the run, and the
result of the validation. The result lists the issues by severity, with a score for each rule and an
overall score, and is valid exactly when it has no errors. What a file is follows from the ending of
its path.
-/

namespace SiteTemplate

open Record

inductive Severity where
  | error
  | warning
  | info
deriving DecidableEq, Repr

namespace Severity

def all : List Severity := [.error, .warning, .info]

def name : Severity → String
  | .error => "error"
  | .warning => "warning"
  | .info => "info"

end Severity

structure Issue where
  severity : Severity
  message : String
  rule : String := ""
  file : Option String := none
  line : Option Int := none
  suggestion : Option String := none
deriving DecidableEq

namespace Issue

def read : Json → Reading Issue := Record.read fun o =>
  pure mk
    <*> required o (.single "severity") (Read.choice Severity.all (·.name))
    <*> required o (.single "message") Read.text
    <*> optional o (.single "rule") "" Read.text
    <*> optional o (.single "file") none (Read.nullable Read.text)
    <*> optional o (.single "line") none (Read.nullable Read.int)
    <*> optional o (.single "suggestion") none (Read.nullable Read.text)

def toJson (s : Spelling) (i : Issue) : Json :=
  Record.write s
    [(.single "severity", .str i.severity.name), (.single "message", .str i.message),
      (.single "rule", .str i.rule), (.single "file", .ofText? i.file),
      (.single "line", (i.line.map Json.int).getD .null),
      (.single "suggestion", .ofText? i.suggestion)]

end Issue

structure ValidationResult where
  errors : List Issue := []
  warnings : List Issue := []
  infos : List Issue := []
  score : Binary64 := .ofInt 100
  ruleScores : Entries String Binary64 := []

namespace ValidationResult

def isValid (r : ValidationResult) : Bool := r.errors.isEmpty

def issues (r : ValidationResult) : List Issue := r.errors ++ r.warnings ++ r.infos

/-- Reads a result; whether it is valid is told by its errors and not by the record. -/
def read : Json → Reading ValidationResult := Record.read fun o =>
  pure (fun _ => mk)
    <*> optional o ⟨"is_valid", "isValid"⟩ true Read.bool
    <*> optional o (.single "errors") [] (Read.list Issue.read)
    <*> optional o (.single "warnings") [] (Read.list Issue.read)
    <*> optional o (.single "infos") [] (Read.list Issue.read)
    <*> optional o (.single "score") (.ofInt 100) (Read.floatWithin 0 100)
    <*> optional o ⟨"rule_scores", "ruleScores"⟩ [] (Read.entries Read.float)

def toJson (s : Spelling) (r : ValidationResult) : Json :=
  Record.write s
    [(⟨"is_valid", "isValid"⟩, .bool r.isValid),
      (.single "errors", .arr (r.errors.map (·.toJson s))),
      (.single "warnings", .arr (r.warnings.map (·.toJson s))),
      (.single "infos", .arr (r.infos.map (·.toJson s))),
      (.single "score", .float r.score),
      (⟨"rule_scores", "ruleScores"⟩, .obj (Entries.mapValues .float r.ruleScores))]

end ValidationResult

structure ProcessedFile where
  path : String
  content : String
  type : String
  /-- The number of UTF-8 bytes, or of the bytes that a Base64 content stands for. -/
  size : Nat := 0
  checksum : String := ""
deriving DecidableEq, Inhabited

namespace ProcessedFile

def read : Json → Reading ProcessedFile := Record.read fun o =>
  pure mk
    <*> required o (.single "path") Read.text
    <*> required o (.single "content") Read.text
    <*> required o (.single "type") Read.text
    <*> optional o (.single "size") 0 Read.nat
    <*> optional o (.single "checksum") "" Read.text

def toJson (s : Spelling) (f : ProcessedFile) : Json :=
  Record.write s
    [(.single "path", .str f.path), (.single "content", .str f.content),
      (.single "type", .str f.type), (.single "size", .int f.size),
      (.single "checksum", .str f.checksum)]

end ProcessedFile

structure Manifest where
  name : String
  version : String
  description : String := ""
  template : String
  engine : String := ""
  fileCount : Nat := 0
  generatedAt : String
  theme : String
  slots : Members := []

namespace Manifest

def read : Json → Reading Manifest := Record.read fun o =>
  pure mk
    <*> required o (.single "name") Read.text
    <*> required o (.single "version") Read.text
    <*> optional o (.single "description") "" Read.text
    <*> required o (.single "template") Read.text
    <*> optional o (.single "engine") "" Read.text
    <*> optional o ⟨"file_count", "fileCount"⟩ 0 Read.nat
    <*> required o ⟨"generated_at", "generatedAt"⟩ Read.text
    <*> required o (.single "theme") Read.text
    <*> optional o (.single "slots") [] Read.members

def toJson (s : Spelling) (m : Manifest) : Json :=
  Record.write s
    [(.single "name", .str m.name), (.single "version", .str m.version),
      (.single "description", .str m.description), (.single "template", .str m.template),
      (.single "engine", .str m.engine), (⟨"file_count", "fileCount"⟩, .int m.fileCount),
      (⟨"generated_at", "generatedAt"⟩, .str m.generatedAt), (.single "theme", .str m.theme),
      (.single "slots", (Json.obj m.slots).encoded)]

end Manifest

structure RunInfo where
  processingTimeMs : Binary64 := .zero
  placeholderCount : Nat := 0
  themeApplied : String
  validationPassed : Bool
  warnings : List String := []
deriving DecidableEq

namespace RunInfo

def read : Json → Reading RunInfo := Record.read fun o =>
  pure mk
    <*> optional o ⟨"processing_time_ms", "processingTimeMs"⟩ .zero (Read.floatAtLeast 0)
    <*> optional o ⟨"placeholder_count", "placeholderCount"⟩ 0 Read.nat
    <*> required o ⟨"theme_applied", "themeApplied"⟩ Read.text
    <*> required o ⟨"validation_passed", "validationPassed"⟩ Read.bool
    <*> optional o (.single "warnings") [] (Read.list Read.text)

def toJson (s : Spelling) (i : RunInfo) : Json :=
  Record.write s
    [(⟨"processing_time_ms", "processingTimeMs"⟩, .float i.processingTimeMs),
      (⟨"placeholder_count", "placeholderCount"⟩, .int i.placeholderCount),
      (⟨"theme_applied", "themeApplied"⟩, .str i.themeApplied),
      (⟨"validation_passed", "validationPassed"⟩, .bool i.validationPassed),
      (.single "warnings", .ofTexts i.warnings)]

end RunInfo

structure Project where
  files : List ProcessedFile := []
  manifest : Manifest
  info : RunInfo
  validation : ValidationResult

namespace Project

def read : Json → Reading Project := Record.read fun o =>
  pure mk
    <*> optional o (.single "files") [] (Read.list ProcessedFile.read)
    <*> required o (.single "manifest") Manifest.read
    <*> required o (.single "metadata") RunInfo.read
    <*> required o (.single "validation") ValidationResult.read

def toJson (s : Spelling) (p : Project) : Json :=
  Record.write s
    [(.single "files", .arr (p.files.map (·.toJson s))),
      (.single "manifest", p.manifest.toJson s), (.single "metadata", p.info.toJson s),
      (.single "validation", p.validation.toJson s)]

end Project

end SiteTemplate

namespace SiteTemplate.FileKind

open Text

private def hasEnding (endings : List String) (path : String) : Bool :=
  endings.any (endsWith · path.toList)

def isMarkup (path : String) : Bool := hasEnding [".tsx", ".jsx", ".html"] path

def isScript (path : String) : Bool := hasEnding [".ts", ".tsx"] path

def isStylesheet (path : String) : Bool := hasEnding [".css"] path

/-- Reads the ending of an image in any case, up to the end of the text. -/
private def imageEnding : Recogniser Unit := fun _ cs =>
  [".jpg", ".jpeg", ".png", ".gif", ".webp"].findSome? fun ending => do
    let rest ← afterIgnoringCase? ending cs
    if atTextEnd rest then some ((), rest) else none

def isImage (path : String) : Bool := imageEnding.occurs path.toList

end SiteTemplate.FileKind
