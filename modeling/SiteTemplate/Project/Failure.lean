import SiteTemplate.Codec
import SiteTemplate.Json.Reader
import SiteTemplate.Json.Writer
import SiteTemplate.Template.Basic
import SiteTemplate.Theme.Customization
import SiteTemplate.Validation.Rule

/-!
# Why a template is not processed

Before a template is processed three things are asked of it: a key, a source file, and constraints.
The same outline is taken of a template that has been read and of the object from which one is to
be read; the latter has none if its version is no object.

A refusal names the template, the file where one is to blame, and the reason. Two failures are no
refusals: a customized ramp step that looks like a number but cannot be read as one, and a template
object that cannot be read and whose version is no object either.
-/

namespace SiteTemplate

/-- What is asked of a template before it is processed. -/
structure Outline where
  hasKey : Bool
  hasSources : Bool
  hasConstraints : Bool
deriving DecidableEq, Repr

namespace Outline

def ofTemplate (t : Template) : Outline where
  hasKey := t.key != ""
  hasSources := !t.initialVersion.sourceFiles.isEmpty
  hasConstraints := t.initialVersion.constraints.declared

/-- The first member under one of two keys that does not count as absent. -/
def present? (ms : Members) (key other : String) : Option Json :=
  ((Entries.get? ms key).filter (·.isTruthy)).or ((Entries.get? ms other).filter (·.isTruthy))

/-- The members of the version; none if it is no object, and no members if it counts as absent. -/
def version? (ms : Members) : Option Members :=
  match present? ms "initialVersion" "initial_version" with
  | none => some []
  | some (.obj version) => some version
  | some _ => none

/-- The outline of an object from which a template is to be read. -/
def ofMembers? (ms : Members) : Option Outline :=
  (version? ms).map fun version =>
    { hasKey := (Entries.get? ms "key").any (·.isTruthy)
      hasSources := (present? version "sourceFiles" "source_files").isSome
      hasConstraints := (Entries.get? version "constraints").any (·.isTruthy) }

private def issue (severity : Severity) (message : String) : Issue :=
  { severity, message, rule := "structure" }

def errors (o : Outline) : List Issue :=
  (if o.hasKey then [] else [issue .error "Template key is required"])
    ++ (if o.hasSources then [] else [issue .error "Template must have at least one source file"])

def warnings (o : Outline) : List Issue :=
  if o.hasConstraints then [] else [issue .warning "Template missing constraints"]

/-- The result of the check; a template with errors has no points. -/
def result (o : Outline) : ValidationResult where
  errors := o.errors
  warnings := o.warnings
  score := .ofInt (if o.errors.isEmpty then Score.points o.warnings else 0)

end Outline

def Template.keyText (ms : Members) : String :=
  (((Entries.get? ms "key").filter (·.isTruthy)).map (·.display)).getD ""

inductive LoadFault where
  | missingFile
  | unreadable (fault : Json.TextFault)
deriving DecidableEq, Repr

/-- The reason of a refusal. -/
inductive Refusal where
  | notAnObject (kind : String)
  /-- The template cannot be read; the reasons tell what it lacks altogether. -/
  | badTemplate (reasons : List String) (faults : List Fault)
  | incomplete (reasons : List String)
  | badUserData (faults : List Fault)
  | badCustomizations (faults : List Fault)
  | badBase64 (fault : Base64.Fault)
  | badFile (e : ThemeError)
  /-- A text cannot be rendered, or the notice about it cannot be printed. -/
  | badText (message : String)
  | notLoaded (path : String) (fault : LoadFault)

namespace Refusal

/-- The text of a reason. -/
def text : Refusal → String
  | notAnObject kind => s!"expected a template object, got {kind}"
  | badTemplate [] faults => faultCount faults "Template"
  | badTemplate reasons _ => "; ".intercalate reasons
  | incomplete reasons => "; ".intercalate reasons
  | badUserData faults => "invalid user data: " ++ faultCount faults "UserData"
  | badCustomizations faults => "invalid theme customizations: " ++ faultCount faults "Theme"
  | badBase64 fault => "invalid base64 content: " ++ fault.message
  | badFile e => "failed to process file: " ++ e.text
  | badText message => "failed to process file: " ++ message
  | notLoaded path _ => s!"cannot load template from {path}"

theorem text_badBase64 (fault : Base64.Fault) :
    (badBase64 fault).text = "invalid base64 content: " ++ fault.message := rfl

def faults? : Refusal → Option (List Fault)
  | badTemplate _ faults | badUserData faults | badCustomizations faults => some faults
  | _ => none

end Refusal

structure ProcessingError where
  /-- The key of the template; empty if there is none. -/
  key : String
  file : Option String := none
  reason : Refusal

namespace ProcessingError

/-- The template and the file, as they are shown; a question mark stands for a missing key. -/
def location (e : ProcessingError) : String :=
  let key := if e.key = "" then "?" else e.key
  match e.file with
  | none => key
  | some file => s!"{key}:{file}"

theorem location_of_file {e : ProcessingError} {file : String} (hkey : e.key ≠ "")
    (hfile : e.file = some file) : e.location = e.key ++ ":" ++ file := by
  rw [location, hfile]
  simp only [if_neg hkey, toString]

def message (e : ProcessingError) : String := s!"Template {e.location}: {e.reason.text}"

theorem message_eq (e : ProcessingError) :
    e.message = "Template " ++ e.location ++ ": " ++ e.reason.text := by
  simp only [message, toString]

end ProcessingError

inductive ProcessingFailure where
  | refused (e : ProcessingError)
  | theme (e : ThemeError)
  | versionNotObject

/-- A failure to customize the theme: faults are refused, all else passes as it is. -/
def ProcessingFailure.ofThemeError (key : String) : ThemeError → ProcessingFailure
  | .faults fs => .refused { key, reason := .badCustomizations fs }
  | e => .theme e

end SiteTemplate
