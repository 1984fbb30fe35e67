import SiteTemplate.Console.Printer
import SiteTemplate.Number.Decimal
import SiteTemplate.Project.Basic
import SiteTemplate.Template.Constraints
import SiteTemplate.Text.Strings

/-!
# Rules

A rule is a named check of all files against the constraints of a template. A check finds issues,
has nothing to say, puts its answer off, or fails; to run a rule is to turn each of these into a
list of issues. A failure becomes one error in the name of the rule, and a notice is printed.

A rule starts at a hundred points and loses some for each issue, down to none. The overall score is
the mean of the rules' scores with one decimal place, and a hundred where there are no rules.
-/

namespace SiteTemplate

namespace Issue

def onFile (rule : String) (severity : Severity) (f : ProcessedFile)
    (message suggestion : String) : Issue :=
  { severity, message, rule, file := some f.path, suggestion := some suggestion }

def atPlace (rule : String) (severity : Severity) (f : ProcessedFile) (offset : Nat)
    (message suggestion : String) : Issue :=
  { onFile rule severity f message suggestion with
    line := some (Text.lineAt f.content.toList offset) }

/-- An issue at the first place where a form stands in a file, if there is one. -/
def atFirst? {α : Type} (r : Text.Recogniser α) (rule : String) (severity : Severity)
    (f : ProcessedFile) (message suggestion : String) : Option Issue :=
  (r.first? none f.content.toList).map fun found =>
    atPlace rule severity f found.offset message suggestion

end Issue

/-- How a check ends. -/
inductive CheckOutcome where
  | found (issues : List Issue)
  | nothing
  | deferred (later : Except String (List Issue))
  | failed (message : String)

/-- The issues of a check that has ended and whose answer has been waited for, or the text of its
failure. -/
def CheckOutcome.settled : CheckOutcome → Except String (List Issue)
  | .found issues => .ok issues
  | .nothing => .ok []
  | .deferred later => later
  | .failed message => .error message

/-- A named check. -/
structure Rule where
  /-- The sort of rule, as its description shows it. -/
  sort : String
  name : String
  check : List ProcessedFile → Constraints → CheckOutcome

namespace Rule

/-- A rule that looks at each file on its own; it fails at the first file that it fails on. -/
def perFile (sort name : String)
    (check : Constraints → ProcessedFile → Except String (List Issue)) : Rule where
  sort
  name
  check files c :=
    match files.mapM (check c) with
    | .ok issues => .found issues.flatten
    | .error message => .failed message

def describe (r : Rule) : String := s!"{r.sort}(name={Text.quotedString r.name})"

def failure (name message : String) : Issue :=
  { severity := .error, message := s!"Validation rule '{name}' failed: {message}", rule := name
    suggestion := some "Please check the validation rule implementation" }

def issues (r : Rule) (files : List ProcessedFile) (c : Constraints) : List Issue :=
  match (r.check files c).settled with
  | .ok issues => issues
  | .error message => [failure r.name message]

def runningNotice (r : Rule) : String := "  [dim]Running " ++ r.name ++ " rule...[/dim]"

def failureNotice (r : Rule) (message : String) : String :=
  "  [red]Validation rule " ++ r.name ++ " failed: " ++ message ++ "[/red]"

/-- What is told about a rule: that it runs, if it is asked to say so, and that it has failed. -/
def notices (r : Rule) (verbose : Bool) (files : List ProcessedFile) (c : Constraints) :
    List String :=
  (if verbose then [r.runningNotice] else [])
    ++ match (r.check files c).settled with
      | .ok _ => []
      | .error message => [r.failureNotice message]

theorem issues_of_found {r : Rule} {files : List ProcessedFile} {c : Constraints}
    {found : List Issue} (h : r.check files c = .found found) : r.issues files c = found := by
  simp [issues, h, CheckOutcome.settled]

end Rule

def Severity.penalty : Severity → Nat
  | .error => 20
  | .warning => 10
  | .info => 5

namespace Score

def penalty : List Issue → Nat
  | [] => 0
  | i :: issues => i.severity.penalty + penalty issues

def points (issues : List Issue) : Nat := 100 - penalty issues

def total : List Nat → Nat
  | [] => 0
  | n :: scores => n + total scores

/-- The mean of scores with one decimal place. -/
def mean (scores : List Nat) : Binary64 :=
  if scores.isEmpty then .ofInt 100
  else ((Binary64.ofInt (total scores)).div (.ofInt scores.length)).roundedTo 1

@[simp] theorem penalty_cons (i : Issue) (issues : List Issue) :
    penalty (i :: issues) = i.severity.penalty + penalty issues := rfl

@[simp] theorem mean_nil : mean [] = .ofInt 100 := rfl

end Score

end SiteTemplate
