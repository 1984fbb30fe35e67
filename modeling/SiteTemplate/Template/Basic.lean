import SiteTemplate.Template.Constraints
import SiteTemplate.Template.Field

/-!
# Templates

A template has a key, a description and a version; the version holds the source files, the slots
that they refer to and the constraints that the finished project must satisfy.
-/

namespace SiteTemplate

open Record

inductive Status where
  | published
  | draft
  | archived
deriving DecidableEq, Repr

def Status.name : Status → String
  | .published => "published"
  | .draft => "draft"
  | .archived => "archived"

inductive Versioning where
  | semver
  | numeric
deriving DecidableEq, Repr

def Versioning.name : Versioning → String
  | .semver => "semver"
  | .numeric => "numeric"

structure TemplateMeta where
  description : String := ""
  engine : String := ""
  status : Status := .draft
  author : String := ""
  versioningPolicy : Option Versioning := none
  previewScreenshot : Option String := none
deriving DecidableEq

namespace TemplateMeta

def read : Json → Reading TemplateMeta := Record.read fun o =>
  pure mk
    <*> optional o (.single "description") "" Read.text
    <*> optional o (.single "engine") "" Read.text
    <*> optional o (.single "status") .draft
      (Read.choice [.published, .draft, .archived] Status.name)
    <*> optional o (.single "author") "" Read.text
    <*> optional o ⟨"versioning_policy", "versioningPolicy"⟩ none
      (Read.nullable (Read.choice [.semver, .numeric] Versioning.name))
    <*> optional o ⟨"preview_screenshot", "previewScreenshot"⟩ none (Read.nullable Read.text)

def toJson (s : Spelling) (m : TemplateMeta) : Json :=
  Record.write s
    [(.single "description", .str m.description), (.single "engine", .str m.engine),
      (.single "status", .str m.status.name), (.single "author", .str m.author),
      (⟨"versioning_policy", "versioningPolicy"⟩, .ofText? (m.versioningPolicy.map (·.name))),
      (⟨"preview_screenshot", "previewScreenshot"⟩, .ofText? m.previewScreenshot)]

end TemplateMeta

inductive SourceType where
  | code
  | config
  | asset
  | style
deriving DecidableEq, Repr

namespace SourceType

def all : List SourceType := [.code, .config, .asset, .style]

def name : SourceType → String
  | .code => "code"
  | .config => "config"
  | .asset => "asset"
  | .style => "style"

end SourceType

/-- How the content of a source file is written. -/
inductive SourceEncoding where
  | utf8
  | base64
deriving DecidableEq, Repr

def SourceEncoding.name : SourceEncoding → String
  | .utf8 => "utf8"
  | .base64 => "base64"

structure SourceFile where
  path : String
  type : SourceType := .code
  encoding : SourceEncoding := .utf8
  content : String := ""
deriving DecidableEq

namespace SourceFile

def read : Json → Reading SourceFile := Record.read fun o =>
  pure mk
    <*> required o (.single "path") Read.nonEmptyText
    <*> optional o (.single "type") .code (Read.choice SourceType.all (·.name))
    <*> optional o (.single "encoding") .utf8 (Read.choice [.utf8, .base64] SourceEncoding.name)
    <*> optional o (.single "content") "" Read.text

def toJson (s : Spelling) (f : SourceFile) : Json :=
  Record.write s
    [(.single "path", .str f.path), (.single "type", .str f.type.name),
      (.single "encoding", .str f.encoding.name), (.single "content", .str f.content)]

end SourceFile

structure TemplateVersion where
  version : Int := 1
  semver : String := "1.0.0"
  status : Status := .draft
  sourceFiles : List SourceFile := []
  slots : Entries String SlotDecl := []
  constraints : Constraints := {}

namespace TemplateVersion

def read : Json → Reading TemplateVersion := Record.read fun o =>
  pure mk
    <*> optional o (.single "version") 1 (Read.intAtLeast 1)
    <*> optional o (.single "semver") "1.0.0" Read.text
    <*> optional o (.single "status") .draft (Read.choice [.published, .draft] Status.name)
    <*> optional o ⟨"source_files", "sourceFiles"⟩ [] (Read.list SourceFile.read)
    <*> optional o (.single "slots") [] (Read.entries SlotDecl.read)
    <*> optional o (.single "constraints") {} Constraints.read

def toJson (s : Spelling) (v : TemplateVersion) : Json :=
  Record.write s
    [(.single "version", .int v.version), (.single "semver", .str v.semver),
      (.single "status", .str v.status.name),
      (⟨"source_files", "sourceFiles"⟩, .arr (v.sourceFiles.map (·.toJson s))),
      (.single "slots", .obj (Entries.mapValues (·.toJson s) v.slots)),
      (.single "constraints", v.constraints.toJson s)]

end TemplateVersion

/-- A template of a project. -/
structure Template where
  key : String
  label : String := ""
  category : String := ""
  info : TemplateMeta := {}
  tags : List String := []
  initialVersion : TemplateVersion

namespace Template

def read : Json → Reading Template := Record.read fun o =>
  pure mk
    <*> required o (.single "key") Read.nonEmptyText
    <*> optional o (.single "label") "" Read.text
    <*> optional o (.single "category") "" Read.text
    <*> optional o (.single "meta") {} TemplateMeta.read
    <*> optional o (.single "tags") [] (Read.list Read.text)
    <*> required o ⟨"initial_version", "initialVersion"⟩ TemplateVersion.read

def toJson (s : Spelling) (t : Template) : Json :=
  Record.write s
    [(.single "key", .str t.key), (.single "label", .str t.label),
      (.single "category", .str t.category), (.single "meta", t.info.toJson s),
      (.single "tags", .ofTexts t.tags),
      (⟨"initial_version", "initialVersion"⟩, t.initialVersion.toJson s)]

end Template

end SiteTemplate
