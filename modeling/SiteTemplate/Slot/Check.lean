import SiteTemplate.Json.Basic
import SiteTemplate.Json.Writer
import SiteTemplate.Pattern.Reader
import SiteTemplate.Template.Field
import SiteTemplate.Text.Strings

/-!
# Checking the values of fields

A value is checked against the validators of its field, against the field's type, and, if it has
that type, against the declarations of its members or items. Null passes everything but the
demand for a value. A check is impossible where a bound cannot be compared with a number, where the
search for a pattern fails, and where the message about a problem would show a whole number with too
many digits.
-/

namespace SiteTemplate

open Text

/-- How a value violates a validator. -/
inductive Violation where
  | tooLong (limit : Json)
  | tooShort (limit : Json)
  | tooManyItems (limit : Json)
  | tooFewItems (limit : Json)
  | badPattern (pattern message : String)
  | mismatch (pattern : String)
  | outside (low high : Json)

def Violation.message : Violation → String
  | .tooLong limit => "Value exceeds maximum length of " ++ limit.display
  | .tooShort limit => "Value is below minimum length of " ++ limit.display
  | .tooManyItems limit => "Array exceeds maximum items of " ++ limit.display
  | .tooFewItems limit => "Array is below minimum items of " ++ limit.display
  | .badPattern pattern message => "Invalid pattern " ++ pattern ++ ": " ++ message
  | .mismatch pattern => "Value does not match pattern " ++ pattern
  | .outside low high => "Value is outside range " ++ low.display ++ "-" ++ high.display

/-- Whether the message of a violation can be written. -/
def Violation.isWritable : Violation → Bool
  | .tooLong limit | .tooShort limit | .tooManyItems limit | .tooFewItems limit => limit.fits
  | .badPattern .. | .mismatch .. => true
  | .outside low high => low.fits && high.fits

/-- A value and a bound that cannot be compared. -/
structure Incomparable where
  /-- Whether the value was to be above the bound; otherwise it was to be below. -/
  above : Bool
  value : Json
  bound : Json

def Incomparable.message (e : Incomparable) : String :=
  let sign := if e.above then ">" else "<"
  s!"'{sign}' not supported between instances of '{e.value.kindName}' and '{e.bound.kindName}'"

/-- Why a check is impossible. -/
inductive ImpossibleCheck where
  | incomparable (e : Incomparable)
  /-- The search for a pattern fails. -/
  | unsearchable (message : String)
  /-- The message about a problem cannot be written. -/
  | unwritable
  /-- The notice about a rejected value cannot be printed. -/
  | unprintable (message : String)

def ImpossibleCheck.message : ImpossibleCheck → String
  | .incomparable e => e.message
  | .unsearchable message | .unprintable message => message
  | .unwritable => Text.unwritableMessage

/-- Whether a number is below a bound; a null bound is none. -/
def Json.below? (value : Json) (n : Quantity) (bound : Json) : Except ImpossibleCheck Bool :=
  if bound.isNull then .ok false
  else match bound.quantity? with
    | some b => .ok (n.lt b)
    | none => .error (.incomparable ⟨false, value, bound⟩)

/-- Whether a number is above a bound; a null bound is none. -/
def Json.above? (value : Json) (n : Quantity) (bound : Json) : Except ImpossibleCheck Bool :=
  if bound.isNull then .ok false
  else match bound.quantity? with
    | some b => .ok (b.lt n)
    | none => .error (.incomparable ⟨true, value, bound⟩)

namespace Validator

/-- The limit on a count, if the limit is a number. -/
def countLimit? (v : Validator) : Option Quantity :=
  if v.limit.isNumber then v.limit.quantity? else none

def above (v : Validator) (count : Nat) (violation : Json → Violation) : Option Violation :=
  if v.countLimit?.any (·.lt (.ofNat count)) then some (violation v.limit) else none

def below (v : Validator) (count : Nat) (violation : Json → Violation) : Option Violation :=
  if v.countLimit?.any ((Quantity.ofNat count).lt ·) then some (violation v.limit) else none

/-- The violation of a pattern, which is the text of the limit. -/
def checkPattern (engine : PatternEngine) (limit : Json) (text : String) :
    Except ImpossibleCheck (Option Violation) :=
  match limit.display? with
  | none => .error .unwritable
  | some pattern =>
    match engine pattern text with
    | .found => .ok none
    | .missing => .ok (some (.mismatch pattern))
    | .malformed message => .ok (some (.badPattern pattern message))
    | .failed message => .error (.unsearchable message)

/-- The violation of a range by a number. -/
def checkRange (range : Members) (value : Json) (n : Quantity) :
    Except ImpossibleCheck (Option Violation) := do
  let low := (Entries.get? range "min").getD .null
  let high := (Entries.get? range "max").getD .null
  if ← value.below? n low then pure (some (.outside low high))
  else if ← value.above? n high then pure (some (.outside low high))
  else pure none

/-- The violation of a validator by a value; values of other kinds than the validator speaks of do
not violate it. -/
def violation? (engine : PatternEngine) (v : Validator) (value : Json) :
    Except ImpossibleCheck (Option Violation) :=
  match v.kind, value with
  | .maxLength, .str s => .ok (v.above s.length .tooLong)
  | .minLength, .str s => .ok (v.below s.length .tooShort)
  | .maxItems, .arr items => .ok (v.above items.length .tooManyItems)
  | .minItems, .arr items => .ok (v.below items.length .tooFewItems)
  | .pattern, .str s => checkPattern engine v.limit s
  | .range, value =>
    match value.isNumber, value.quantity?, v.limit with
    | true, some n, .obj range => checkRange range value n
    | _, _, _ => .ok none
  | _, _ => .ok none

/-- The violation of a validator by a value, whose message is written at once. -/
def check (engine : PatternEngine) (v : Validator) (value : Json) :
    Except ImpossibleCheck (Option Violation) :=
  match v.violation? engine value with
  | .ok (some x) => if x.isWritable then .ok (some x) else .error .unwritable
  | r => r

end Validator

namespace FieldType

/-- Whether a value that is not null has a type. -/
def accepts : FieldType → Json → Bool
  | .text, .str _ | .richtext, .str _ | .image, .str _ => true
  | .number, value => value.isNumber
  | .boolean, .bool _ => true
  | .email, .str s => s.toList.contains '@'
  | .url, .str s => startsWith "http://" s.toList || startsWith "https://" s.toList
  | .list, .arr _ => true
  | .object, .obj _ => true
  | _, _ => false

def complaint (t : FieldType) (value : Json) : String :=
  match t with
  | .text | .richtext => "Expected string, got " ++ value.kindName
  | .number => "Expected number, got " ++ value.kindName
  | .boolean => "Expected boolean, got " ++ value.kindName
  | .email => "Expected valid email, got " ++ value.display
  | .url => "Expected valid URL, got " ++ value.display
  | .image => "Expected image URL, got " ++ value.kindName
  | .list => "Expected array, got " ++ value.kindName
  | .object => "Expected object, got " ++ value.kindName

def canComplain (t : FieldType) (value : Json) : Bool :=
  match t with
  | .email | .url => value.fits
  | _ => true

def admits (t : FieldType) (value : Json) : Bool := value.isNull || t.accepts value

def zero : FieldType → Json
  | .text | .richtext | .email | .url | .image => ""
  | .number => .int 0
  | .boolean => .bool false
  | .list => .arr []
  | .object => .obj []

end FieldType

inductive FieldProblem where
  | required
  | violation (v : Violation)
  | wrongType (t : FieldType) (value : Json)

structure FieldIssue where
  path : String
  problem : FieldProblem

namespace FieldIssue

def message (i : FieldIssue) : String :=
  match i.problem with
  | .required => "Field " ++ i.path ++ " is required"
  | .violation v => i.path ++ ": " ++ v.message
  | .wrongType t value => i.path ++ ": " ++ t.complaint value

def isMissing (i : FieldIssue) : Bool :=
  match i.problem with
  | .required => true
  | _ => false

end FieldIssue

namespace FieldDecl

/-- A value that does not count where one is required. -/
def isBlankValue : Json → Bool
  | .null => true
  | .str s => s == ""
  | _ => false

def requiredIssues (path : String) (required : Bool) (value : Json) : List FieldIssue :=
  if required && isBlankValue value then [⟨path, .required⟩] else []

/-- The issue of a value that has not the type, whose message is written at once. -/
def typeIssues (path : String) (t : FieldType) (value : Json) :
    Except ImpossibleCheck (List FieldIssue) :=
  if t.canComplain value then .ok [⟨path, .wrongType t value⟩] else .error .unwritable

/-- The issues of violated validators. -/
def validatorIssues (engine : PatternEngine) (path : String) (value : Json) :
    List Validator → Except ImpossibleCheck (List FieldIssue)
  | [] => .ok []
  | v :: vs => do
    let violation ← v.check engine value
    let more ← validatorIssues engine path value vs
    pure ((violation.map fun x => ⟨path, .violation x⟩).toList ++ more)

/-- All the lists of issues, one after the other. -/
def joinIssues : List (Except ImpossibleCheck (List FieldIssue)) →
    Except ImpossibleCheck (List FieldIssue)
  | [] => .ok []
  | r :: rs => do
    let first ← r
    let more ← joinIssues rs
    pure (first ++ more)

mutual

/-- The issues of a value under the name of its field. -/
def issuesAt (engine : PatternEngine) (path : String) :
    FieldDecl → Json → Except ImpossibleCheck (List FieldIssue)
  | ⟨_, type, required, _, validators, shape, itemShape⟩, value => do
    let missing := requiredIssues path required value
    let violations ← if value.isNull then pure []
      else validatorIssues engine path value validators
    let inner ← if type.admits value then
        match value with
        | .obj ms => shapeIssues engine path ms shape
        | .arr items => itemShapeIssues engine path items itemShape
        | _ => pure []
      else typeIssues path type value
    pure (missing ++ violations ++ inner)

def shapeIssues (engine : PatternEngine) (path : String) (ms : Members) :
    Option (List (String × FieldDecl)) → Except ImpossibleCheck (List FieldIssue)
  | none => .ok []
  | some fields => memberIssues engine path ms fields

def memberIssues (engine : PatternEngine) (path : String) (ms : Members) :
    List (String × FieldDecl) → Except ImpossibleCheck (List FieldIssue)
  | [] => .ok []
  | (key, f) :: fs => do
    let first ← issuesAt engine (path ++ "." ++ key) f ((Entries.get? ms key).getD .null)
    let more ← memberIssues engine path ms fs
    pure (first ++ more)

def itemShapeIssues (engine : PatternEngine) (path : String) (items : List Json) :
    Option FieldDecl → Except ImpossibleCheck (List FieldIssue)
  | none => .ok []
  | some f =>
    joinIssues (items.zipIdx.map fun (item, i) =>
      issuesAt engine (path ++ "." ++ toString i) f item)

end

/-- The issues of a value; the path leads to what holds the field and may be empty. -/
def issues (engine : PatternEngine) (f : FieldDecl) (value : Json) (path : String) :
    Except ImpossibleCheck (List FieldIssue) :=
  f.issuesAt engine (if path = "" then f.key else path ++ "." ++ f.key) value

/-- The value of a field that has no better one: the declared default, or the empty value. -/
def fallback (f : FieldDecl) : Json := if f.default.isNull then f.type.zero else f.default

end FieldDecl

end SiteTemplate
