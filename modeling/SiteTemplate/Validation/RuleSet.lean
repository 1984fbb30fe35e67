import SiteTemplate.Number.Binary64
import SiteTemplate.Placeholder.Form
import SiteTemplate.Project.Basic
import SiteTemplate.Text.Strings
import SiteTemplate.Validation.CodeQuality
import SiteTemplate.Validation.MarkupRules
import SiteTemplate.Validation.Rule

/-!
# Rule sets

A rule set runs its rules one by one over the same files. The result lists the issues of all rules
in their order, parted by severity. Scores are kept by the name of the rule; of two rules with one
name the later gives the score, in the place of the earlier.

The standard set has a rule that keeps files within their budgets, one that reminds of the sizes of
images, which are not decoded, and one that finds the placeholders that were left behind.
-/

namespace SiteTemplate.Performance

def ruleName : String := "performance"

def byteSize (f : ProcessedFile) : Nat :=
  if f.size = 0 then Text.byteLength f.content else f.size

/-- A size in kilobytes, rounded to the nearest whole number from its double-precision quotient;
none where the quotient is beyond that range. -/
def kilobytes? (bytes : Nat) : Option Int :=
  let quotient := Binary64.ofRatio false bytes 1024
  if quotient.isFinite then some (Binary64.roundRat quotient.toRat) else none

/-- A style sheet beyond its budget. -/
def heavyStylesheet (p : PerformanceConstraints) (f : ProcessedFile) (kb : Int) : Option Issue :=
  if FileKind.isStylesheet f.path && p.maxCriticalCssKb * 1024 < byteSize f then
    some (Issue.onFile ruleName .warning f
      s!"CSS file too large: {kb}KB (max: {p.maxCriticalCssKb}KB)"
      "Consider splitting CSS or removing unused styles")
  else none

/-- An image beyond its budget. -/
def heavyImage (p : PerformanceConstraints) (f : ProcessedFile) (kb : Int) : Option Issue :=
  if FileKind.isImage f.path && p.maxImageKb * 1024 < byteSize f then
    some (Issue.onFile ruleName .warning f
      s!"Image file too large: {kb}KB (max: {p.maxImageKb}KB)"
      "Optimize image size or use WebP format")
  else none

/-- The issues of a file, unless its size cannot be told in kilobytes. -/
def fileIssues (p : PerformanceConstraints) (f : ProcessedFile) : Except String (List Issue) :=
  match kilobytes? (byteSize f) with
  | none => .error "integer division result too large for a float"
  | some kb => .ok ((heavyStylesheet p f kb).toList ++ (heavyImage p f kb).toList)

def rule : Rule := .perFile "PerformanceRule" ruleName fun c f =>
  (c.performance.map (fileIssues · f)).getD (.ok [])

end SiteTemplate.Performance

namespace SiteTemplate.Assets

open Text

def ruleName : String := "assets"

def bearsOn (key path : String) : Bool :=
  occursIn key.toList path.toList || occursIn path.toList key.toList

/-- The reminder of a smallest width; a width of zero sets none. -/
def reminder (f : ProcessedFile) (key : String) (c : AssetConstraint) : Option Issue :=
  match c.minWidth with
  | none => none
  | some width =>
    if width ≠ 0 && bearsOn key f.path then
      some (Issue.onFile ruleName .info f s!"Image constraint check: {key}"
        s!"Ensure image meets minimum width of {width}px")
    else none

def fileIssues (cs : Entries String AssetConstraint) (f : ProcessedFile) : List Issue :=
  if FileKind.isImage f.path then cs.filterMap fun (key, c) => reminder f key c else []

def rule : Rule := .perFile "AssetRule" ruleName fun c f =>
  .ok ((c.assets.map (fileIssues · f)).getD [])

end SiteTemplate.Assets

namespace SiteTemplate.Completeness

def ruleName : String := "placeholders"

/-- The warning about one kind of form. -/
def leftover (f : ProcessedFile) (k : Placeholder.Kind) : Option Issue :=
  let found := Placeholder.leftovers k f.content
  found.head?.map fun first =>
    Issue.atPlace ruleName .warning f first.offset
      s!"Unreplaced placeholders found: {found.length} instances"
      "Ensure all placeholders are properly replaced with actual content"

def fileIssues (f : ProcessedFile) : List Issue := Placeholder.Kind.all.filterMap (leftover f)

def rule : Rule := .perFile "PlaceholderRule" ruleName fun _ f => .ok (fileIssues f)

end SiteTemplate.Completeness

namespace SiteTemplate

structure RuleSet where
  rules : List Rule

namespace RuleSet

def standard : RuleSet where
  rules := [Accessibility.rule, Performance.rule, Content.rule, Assets.rule, Security.rule,
    CodeQuality.rule, Completeness.rule]

def names (s : RuleSet) : List String := s.rules.map (·.name)

def add (s : RuleSet) (r : Rule) : RuleSet := ⟨s.rules ++ [r]⟩

def remove (s : RuleSet) (name : String) : RuleSet := ⟨s.rules.filter (·.name != name)⟩

def has (s : RuleSet) (name : String) : Bool := s.rules.any (·.name == name)

@[simp] theorem rules_add (s : RuleSet) (r : Rule) : (s.add r).rules = s.rules ++ [r] := rfl

@[simp] theorem rules_remove (s : RuleSet) (name : String) :
    (s.remove name).rules = s.rules.filter (·.name != name) := rfl

def reports (s : RuleSet) (files : List ProcessedFile) (c : Constraints) :
    List (String × List Issue) :=
  s.rules.map fun r => (r.name, r.issues files c)

def points (reports : List (String × List Issue)) : Entries String Nat :=
  .ofList (reports.map fun (name, issues) => (name, Score.points issues))

def ofSeverity (s : Severity) (issues : List Issue) : List Issue :=
  issues.filter (·.severity == s)

/-- The result of running all rules over the files. -/
def validate (s : RuleSet) (files : List ProcessedFile) (c : Constraints) : ValidationResult :=
  let reports := s.reports files c
  let issues := reports.flatMap (·.2)
  let points := points reports
  { errors := ofSeverity .error issues
    warnings := ofSeverity .warning issues
    infos := ofSeverity .info issues
    score := Score.mean points.values
    ruleScores := points.mapValues fun (n : Nat) => .ofInt n }

def notices (s : RuleSet) (verbose : Bool) (files : List ProcessedFile) (c : Constraints) :
    List String :=
  s.rules.flatMap fun r => r.notices verbose files c

/-- Runs all rules over the files and prints the notices; one that cannot be printed ends the
run. -/
def run (s : RuleSet) (printer : Printer) (verbose : Bool) (files : List ProcessedFile)
    (c : Constraints) : Except String ValidationResult := do
  printer.printAll (s.notices verbose files c)
  pure (s.validate files c)

end RuleSet

end SiteTemplate
