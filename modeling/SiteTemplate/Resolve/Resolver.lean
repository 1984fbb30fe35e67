import SiteTemplate.Console.Printer
import SiteTemplate.Prompt
import SiteTemplate.Resolve.Fallback
import SiteTemplate.Settings

/-!
# Resolving placeholders

A resolver asks the content model first, where it may be asked, and else takes the fallback. Its
answer counts only if it is successful and has the shape that the placeholder asks for. If no step
resolves a placeholder, its value is the caller's text.

A notice is printed when an answer does not count and when a step fails. A notice that cannot be
printed makes the step fail in the first case and breaks the resolution off in the second.
-/

namespace SiteTemplate

/-- What comes of asking the content model. -/
inductive ModelAnswer where
  | text (s : String)
  | unsuccessful (error : Option String)
  | timedOut
  | cancelled
  | raised (message : String)
deriving DecidableEq, Repr

abbrev ContentModel := String → ModelAnswer

/-- What resolves placeholders. -/
structure Resolver where
  settings : Settings := {}
  registry : ThemeRegistry := .builtin
  model : Option ContentModel := none
  library : Prompt.Library := {}
  printer : Printer := .plain

namespace Resolver

def mayAsk (r : Resolver) (d : UserData) : Bool :=
  r.model.isSome && r.settings.ai.isActive && d.useAI

def defaultBrand (r : Resolver) : String := r.settings.processing.defaultBrandName

def prompt (r : Resolver) (q : Request) : String :=
  r.library.prompt q.placeholder (Business.analyze q.userData r.defaultBrand) q.userData q.context

/-- The value that an answer gives to a kind of placeholder, if it is accepted. -/
def acceptedValue? (k : Placeholder.Kind) (answer : String) : Option String :=
  let value := Answer.clean answer
  if Answer.accepts k value then
    some (match k with
      | .tw => ClassToken.merge [value]
      | _ => value)
  else none

def askName : String := "ai_step"

def fallbackName : String := "fallback_step"

/-- The end of the asking step after a notice: it fails if the notice cannot be printed. -/
def leaveOpen (r : Resolver) (notice : String) : Outcome :=
  match r.printer.fault? notice with
  | none => .unresolved
  | some message => .failed askName message

/-- The step that asks the content model. -/
def askStep (r : Resolver) : Step := fun q =>
  match r.model with
  | some model =>
    if r.mayAsk q.userData then
      let raw := q.placeholder.raw
      match model (r.prompt q) with
      | .text s =>
        match acceptedValue? q.placeholder.kind s with
        | some value => .resolved ⟨value, "ai"⟩
        | none => r.leaveOpen ("  [dim]AI response rejected for " ++ raw ++ "[/dim]")
      | .unsuccessful error =>
        r.leaveOpen ("  [dim]AI unavailable for " ++ raw ++ ": " ++ error.getD "None" ++ "[/dim]")
      | .timedOut => r.leaveOpen ("  [dim]AI timed out for " ++ raw ++ ", using fallback[/dim]")
      | .cancelled =>
        r.leaveOpen ("  [dim]AI request cancelled for " ++ raw ++ ", using fallback[/dim]")
      | .raised message => .failed askName message
    else .unresolved
  | none => .unresolved

def fallbackStep (r : Resolver) : Step := fun q =>
  match Fallback.value r.defaultBrand q with
  | .ok value => .resolved ⟨value, "fallback"⟩
  | .error message => .failed fallbackName message

def defaultSteps (r : Resolver) : List Step := [r.askStep, r.fallbackStep]

def failureNotice (q : Request) (step message : String) : String :=
  "  [yellow]Resolver step " ++ step ++ " failed for " ++ q.placeholder.raw ++ ": " ++ message
    ++ "[/yellow]"

/-- The resolution of the first step that resolves, or else the caller's text. -/
def resolveRequest (r : Resolver) : List Step → Request → Except String Resolution
  | [], q => (Fallback.text r.defaultBrand q).map fun text => ⟨text, "default"⟩
  | step :: steps, q =>
    match step q with
    | .resolved v => .ok v
    | .unresolved => r.resolveRequest steps q
    | .failed name message =>
      match r.printer.fault? (failureNotice q name message) with
      | none => r.resolveRequest steps q
      | some message => .error message

/-- The theme under which a placeholder is resolved: the one given, or else the one that the caller
names, or else the default. -/
def themeFor (r : Resolver) (d : UserData) (theme : Option Theme) : Theme :=
  (theme.or (d.theme.bind r.registry.get?)).getD r.registry.defaultTheme

/-- The request for a placeholder; without a context it describes the place itself. -/
def request (r : Resolver) (p : Placeholder) (d : UserData) (context : String)
    (filledSlots : Members) (theme : Option Theme) : Request where
  placeholder := p
  userData := d
  context := if context = "" then p.place else context
  filledSlots := filledSlots
  theme := r.themeFor d theme

def resolve (r : Resolver) (steps : List Step) (p : Placeholder) (d : UserData)
    (context : String) (filledSlots : Members) (theme : Option Theme) : Except String String :=
  (r.resolveRequest steps (r.request p d context filledSlots theme)).map (·.value)

def textOf (value : Placeholder → Except String String) :
    Placeholder.Segment → Except String String
  | .literal text => .ok text
  | .marker p => value p

/-- A text with every placeholder replaced by its value, and the number of placeholders. Values are
not looked at again. -/
def render (r : Resolver) (steps : List Step) (text file : String) (d : UserData)
    (filledSlots : Members) (theme : Option Theme) : Except String (String × Nat) := do
  let segments := Placeholder.segments text file
  let texts ← segments.mapM (textOf fun p => r.resolve steps p d "" filledSlots theme)
  pure (String.join texts, (segments.filterMap (·.marker?)).length)

end Resolver

end SiteTemplate
