import SiteTemplate.Record

/-!
# Quality constraints of a template

Each block switches on the rule that reads it; a block that is missing leaves its rule idle.
-/

namespace SiteTemplate

open Record

inductive Contrast where
  | aa
  | aaa
deriving DecidableEq, Repr

def Contrast.name : Contrast → String
  | .aa => "AA"
  | .aaa => "AAA"

structure AccessibilityConstraints where
  contrast : Contrast := .aa
  minFontSizePx : Nat := 12
  ariaRequired : Bool := false
  keyboardNavigable : Bool := false
deriving DecidableEq

namespace AccessibilityConstraints

def read : Json → Reading AccessibilityConstraints := Record.read fun o =>
  pure mk
    <*> optional o (.single "contrast") .aa (Read.choice [.aa, .aaa] Contrast.name)
    <*> optional o ⟨"min_font_size_px", "minFontSizePx"⟩ 12 Read.nat
    <*> optional o ⟨"aria_required", "ariaRequired"⟩ false Read.bool
    <*> optional o ⟨"keyboard_navigable", "keyboardNavigable"⟩ false Read.bool

def toJson (s : Spelling) (c : AccessibilityConstraints) : Json :=
  Record.write s
    [(.single "contrast", .str c.contrast.name),
      (⟨"min_font_size_px", "minFontSizePx"⟩, .int c.minFontSizePx),
      (⟨"aria_required", "ariaRequired"⟩, .bool c.ariaRequired),
      (⟨"keyboard_navigable", "keyboardNavigable"⟩, .bool c.keyboardNavigable)]

end AccessibilityConstraints

structure SeoConstraints where
  titleMaxLen : Nat := 60
  descMaxLen : Nat := 160
  requireH1 : Bool := false
  metaTags : List String := []
deriving DecidableEq

namespace SeoConstraints

def read : Json → Reading SeoConstraints := Record.read fun o =>
  pure mk
    <*> optional o ⟨"title_max_len", "titleMaxLen"⟩ 60 Read.nat
    <*> optional o ⟨"desc_max_len", "descMaxLen"⟩ 160 Read.nat
    <*> optional o ⟨"require_h1", "requireH1"⟩ false Read.bool
    <*> optional o ⟨"meta_tags", "metaTags"⟩ [] (Read.list Read.text)

def toJson (s : Spelling) (c : SeoConstraints) : Json :=
  Record.write s
    [(⟨"title_max_len", "titleMaxLen"⟩, .int c.titleMaxLen),
      (⟨"desc_max_len", "descMaxLen"⟩, .int c.descMaxLen),
      (⟨"require_h1", "requireH1"⟩, .bool c.requireH1),
      (⟨"meta_tags", "metaTags"⟩, .ofTexts c.metaTags)]

end SeoConstraints

structure ContentConstraints where
  seo : SeoConstraints := {}
deriving DecidableEq

namespace ContentConstraints

def read : Json → Reading ContentConstraints := Record.read fun o =>
  pure mk <*> optional o (.single "seo") {} SeoConstraints.read

def toJson (s : Spelling) (c : ContentConstraints) : Json :=
  Record.write s [(.single "seo", c.seo.toJson s)]

end ContentConstraints

structure AssetConstraint where
  minWidth : Option Int := none
  aspectRatio : Option String := none
deriving DecidableEq

namespace AssetConstraint

def read : Json → Reading AssetConstraint := Record.read fun o =>
  pure mk
    <*> optional o ⟨"min_width", "minWidth"⟩ none (Read.nullable Read.int)
    <*> optional o ⟨"aspect_ratio", "aspectRatio"⟩ none (Read.nullable Read.text)

def toJson (s : Spelling) (c : AssetConstraint) : Json :=
  Record.write s
    [(⟨"min_width", "minWidth"⟩, (c.minWidth.map Json.int).getD .null),
      (⟨"aspect_ratio", "aspectRatio"⟩, .ofText? c.aspectRatio)]

end AssetConstraint

structure PerformanceConstraints where
  maxImageKb : Nat := 200
  maxCriticalCssKb : Nat := 50
deriving DecidableEq

namespace PerformanceConstraints

def read : Json → Reading PerformanceConstraints := Record.read fun o =>
  pure mk
    <*> optional o ⟨"max_image_kb", "maxImageKb"⟩ 200 Read.nat
    <*> optional o ⟨"max_critical_css_kb", "maxCriticalCssKb"⟩ 50 Read.nat

def toJson (s : Spelling) (c : PerformanceConstraints) : Json :=
  Record.write s
    [(⟨"max_image_kb", "maxImageKb"⟩, .int c.maxImageKb),
      (⟨"max_critical_css_kb", "maxCriticalCssKb"⟩, .int c.maxCriticalCssKb)]

end PerformanceConstraints

structure SecurityConstraints where
  disallowInlineScript : Bool := false
deriving DecidableEq

namespace SecurityConstraints

def read : Json → Reading SecurityConstraints := Record.read fun o =>
  pure mk <*> optional o ⟨"disallow_inline_script", "disallowInlineScript"⟩ false Read.bool

def toJson (s : Spelling) (c : SecurityConstraints) : Json :=
  Record.write s [(⟨"disallow_inline_script", "disallowInlineScript"⟩, .bool c.disallowInlineScript)]

end SecurityConstraints

structure CodeConstraints where
  tsc : Bool := false
deriving DecidableEq

namespace CodeConstraints

def read : Json → Reading CodeConstraints := Record.read fun o =>
  pure mk <*> optional o (.single "tsc") false Read.bool

def toJson (s : Spelling) (c : CodeConstraints) : Json :=
  Record.write s [(.single "tsc", .bool c.tsc)]

end CodeConstraints

structure Constraints where
  a11y : Option AccessibilityConstraints := none
  content : Option ContentConstraints := none
  assets : Option (Entries String AssetConstraint) := none
  performance : Option PerformanceConstraints := none
  security : Option SecurityConstraints := none
  code : Option CodeConstraints := none

namespace Constraints

def read : Json → Reading Constraints := Record.read fun o =>
  pure mk
    <*> optional o ⟨"a11y", "a11Y"⟩ none (Read.nullable AccessibilityConstraints.read)
    <*> optional o (.single "content") none (Read.nullable ContentConstraints.read)
    <*> optional o (.single "assets") none (Read.nullable (Read.entries AssetConstraint.read))
    <*> optional o (.single "performance") none (Read.nullable PerformanceConstraints.read)
    <*> optional o (.single "security") none (Read.nullable SecurityConstraints.read)
    <*> optional o (.single "code") none (Read.nullable CodeConstraints.read)

/-- Writes a block that may be missing. -/
def block {α : Type} (write : α → Json) : Option α → Json
  | none => .null
  | some a => write a

def toJson (s : Spelling) (c : Constraints) : Json :=
  Record.write s
    [(⟨"a11y", "a11Y"⟩, block (·.toJson s) c.a11y),
      (.single "content", block (·.toJson s) c.content),
      (.single "assets", block (fun as => .obj (Entries.mapValues (·.toJson s) as)) c.assets),
      (.single "performance", block (·.toJson s) c.performance),
      (.single "security", block (·.toJson s) c.security),
      (.single "code", block (·.toJson s) c.code)]

def declared (c : Constraints) : Bool :=
  c.a11y.isSome || c.content.isSome || c.assets.isSome || c.performance.isSome
    || c.security.isSome || c.code.isSome

end Constraints

end SiteTemplate
