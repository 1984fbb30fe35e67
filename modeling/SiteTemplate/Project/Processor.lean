import SiteTemplate.Codec
import SiteTemplate.Json.Reader
import SiteTemplate.Project.Failure
import SiteTemplate.Resolve.Resolver
import SiteTemplate.Slot.Fill
import SiteTemplate.Text.Strings
import SiteTemplate.Theme.Reskin
import SiteTemplate.Validation.RuleSet

/-!
# Processing a template

The caller's data are completed, the slots filled, the placeholders of every file resolved and the
result put into the skin of the theme; then the rules are run over all files. Each file is made
from its source alone, and the first file that cannot be made ends the run. A file in Base64 passes
as it is and is measured by the bytes that it stands for. A template may also come from a file; one
that holds no object stands for an object whose only member holds its value.

What a run makes is told by `process`. `run` prints the notices about the run as a whole besides,
and one that cannot be printed ends it. Notices about a file are printed while the file is made.
-/

namespace SiteTemplate

/-- A record, or JSON from which one has yet to be read. -/
inductive Supplied (α : Type) where
  | record (a : α)
  | raw (v : Json)

/-- What processes templates. -/
structure Processor where
  settings : Settings := {}
  registry : ThemeRegistry := .builtin
  model : Option ContentModel := none
  rules : RuleSet := .standard
  engine : PatternEngine := Pattern.engine
  printer : Printer := .plain

namespace Processor

/-- A processor with the given registry, or else the built-in themes and the default theme that the
settings name. -/
def create (settings : Settings) (registry : Option ThemeRegistry)
    (model : Option ContentModel) (rules : RuleSet) : Except RegistryError Processor :=
  match registry with
  | some registry => .ok { settings, registry, model, rules }
  | none =>
    (ThemeRegistry.ofThemes Theme.builtin settings.processing.defaultTheme).map fun registry =>
      { settings, registry, model, rules }

def resolver (p : Processor) : Resolver :=
  { settings := p.settings, registry := p.registry, model := p.model, printer := p.printer }

def filler (p : Processor) : SlotFiller := { engine := p.engine, printer := p.printer }

def verbose (p : Processor) : Bool := p.settings.processing.verbose

def readTemplate : Supplied Template → Except ProcessingFailure Template
  | .record t => .ok t
  | .raw (.obj ms) =>
    match (Template.read (.obj ms) : Except (List Fault) Template) with
    | .ok t => .ok t
    | .error faults =>
      match Outline.ofMembers? ms with
      | none => .error .versionNotObject
      | some o =>
        let reason := Refusal.badTemplate (o.errors.map (·.message)) faults
        .error (.refused { key := Template.keyText ms, reason })
  | .raw v => .error (.refused { key := "", reason := .notAnObject v.kindName })

/-- The template that is to be processed, if it has all that is asked for. -/
def acceptTemplate (template : Supplied Template) : Except ProcessingFailure Template := do
  let t ← readTemplate template
  let missing := (Outline.ofTemplate t).errors
  if missing.isEmpty then pure t
  else .error (.refused { key := t.key, reason := .incomplete (missing.map (·.message)) })

/-- The caller's data; null stands for no data. -/
def readUserData (key : String) : Supplied UserData → Except ProcessingFailure UserData
  | .record d => .ok d
  | .raw .null => .ok {}
  | .raw v =>
    match (UserData.read v : Except (List Fault) UserData) with
    | .ok d => .ok d
    | .error faults => .error (.refused { key, reason := .badUserData faults })

def brandFor (p : Processor) (d : UserData) : Option String :=
  if d.brandName.any (· != "") then d.brandName else some p.settings.processing.defaultBrandName

/-- The theme that the caller names if it is registered; the default stands in for a missing name
and the fallback, with a warning, for an unknown one. -/
def themeFor (p : Processor) (d : UserData) : String × List String :=
  match d.theme.filter (· != "") with
  | none => (p.registry.default, [])
  | some name =>
    if p.registry.knows (some name) then (name, [])
    else
      let fallback := p.registry.fallback
      (fallback, [s!"Unknown theme '{name}', using '{fallback}' instead"])

def normalized (p : Processor) (d : UserData) : UserData × List String :=
  let (theme, warnings) := p.themeFor d
  ({ d with brandName := p.brandFor d, theme := some theme }, warnings)

/-- What is common to all files of a run. -/
structure Setting where
  key : String
  data : UserData
  theme : Theme
  filled : FilledSlots

def renderSource (p : Processor) (s : Setting) (f : SourceFile) : Except String (String × Nat) :=
  p.resolver.render p.resolver.defaultSteps f.content f.path s.data s.filled.toJson (some s.theme)

def fileNotices (p : Processor) (f : SourceFile) (count : Nat) : List String :=
  if p.verbose then
    ["  [dim]" ++ f.path ++ ": " ++ toString count ++ " placeholder(s) resolved[/dim]"]
  else []

/-- The content of the file made of a text, and the number of its placeholders. The name of the
theme is registered by now, so there is nothing to tell about it. -/
def makeText (p : Processor) (s : Setting) (f : SourceFile) : Except Refusal (String × Nat) := do
  let (rendered, count) ← (p.renderSource s f).mapError .badText
  let content ← (p.registry.reskin rendered s.data.theme s.data.customizations).mapError .badFile
  (p.printer.printAll (p.fileNotices f count)).mapError .badText
  pure (content, count)

/-- A file with its content, measured by `size`. -/
def packed (f : SourceFile) (content : String) (size : Nat) : ProcessedFile where
  path := f.path
  content := content
  type := f.type.name
  size := size
  checksum := Sha256.ofText content

/-- The finished file of a source, and the number of its placeholders. -/
def processFile (p : Processor) (s : Setting) (f : SourceFile) :
    Except ProcessingFailure (ProcessedFile × Nat) :=
  let refuse (reason : Refusal) : Except ProcessingFailure (ProcessedFile × Nat) :=
    .error (.refused { key := s.key, file := some f.path, reason })
  match f.encoding with
  | .base64 =>
    match Base64.decode f.content.toList with
    | .ok bytes => .ok (packed f f.content bytes.length, 0)
    | .error fault => refuse (.badBase64 fault)
  | .utf8 =>
    match p.makeText s f with
    | .ok (content, count) => .ok (packed f content (Text.byteLength content), count)
    | .error reason => refuse reason

def themeName (p : Processor) (d : UserData) : String :=
  (d.theme.filter (· != "")).getD p.registry.default

/-- The setting of a run with the caller's normalized data, and the warnings about customizations
that were skipped. -/
def setting (p : Processor) (t : Template) (d : UserData) :
    Except ProcessingFailure (Setting × List String) :=
  match p.registry.customized (some (p.themeName d)) d.customizations with
  | .error e => .error (.ofThemeError t.key e)
  | .ok (theme, warnings) =>
    .ok ({ key := t.key, data := d, theme
           filled := FilledSlots.fill p.filler t.initialVersion.slots d }, warnings)

theorem setting_eq_ok_iff {p : Processor} {t : Template} {d : UserData} {s : Setting}
    {skipped : List String} : p.setting t d = .ok (s, skipped) ↔
      ∃ theme, p.registry.customized (some (p.themeName d)) d.customizations = .ok (theme, skipped)
        ∧ s = { key := t.key, data := d, theme
                filled := FilledSlots.fill p.filler t.initialVersion.slots d } := by
  rw [setting]
  cases p.registry.customized (some (p.themeName d)) d.customizations with
  | error e => simp
  | ok made =>
    obtain ⟨theme, warnings⟩ := made
    simp only [Except.ok.injEq, Prod.mk.injEq]
    constructor
    · rintro ⟨rfl, rfl⟩
      exact ⟨theme, ⟨rfl, rfl⟩, rfl⟩
    · rintro ⟨_, ⟨rfl, rfl⟩, rfl⟩
      exact ⟨rfl, rfl⟩

def placeholderTotal : List (ProcessedFile × Nat) → Nat
  | [] => 0
  | (_, count) :: made => count + placeholderTotal made

/-- The finished project, from its files and the warnings of the run. -/
def assemble (p : Processor) (t : Template) (s : Setting) (made : List (ProcessedFile × Nat))
    (warnings : List String) (generatedAt : String) : Project :=
  let files := made.map (·.1)
  let validation := p.rules.validate files t.initialVersion.constraints
  let theme := p.themeName s.data
  { files
    manifest :=
      { name := (s.data.brandName.filter (· != "")).getD t.key
        version := t.initialVersion.semver
        description := t.info.description
        template := t.key
        engine := t.info.engine
        fileCount := files.length
        generatedAt
        theme
        slots := s.filled.toJson }
    info :=
      { placeholderCount := placeholderTotal made
        themeApplied := theme
        validationPassed := validation.isValid
        warnings := warnings ++ validation.warnings.map (·.message) }
    validation }

/-- Processes a template that has been accepted. -/
def processAccepted (p : Processor) (t : Template) (data : Supplied UserData)
    (generatedAt : String) : Except ProcessingFailure Project := do
  let given ← readUserData t.key data
  let (d, warnings) := p.normalized given
  let (s, skipped) ← p.setting t d
  let made ← t.initialVersion.sourceFiles.mapM (p.processFile s)
  pure (p.assemble t s made (warnings ++ skipped) generatedAt)

def process (p : Processor) (template : Supplied Template) (data : Supplied UserData)
    (generatedAt : String) : Except ProcessingFailure Project := do
  let t ← acceptTemplate template
  p.processAccepted t data generatedAt

inductive RunFailure where
  | failed (e : ProcessingFailure)
  /-- A notice about the run as a whole cannot be printed. -/
  | unprintable (message : String)

def tell (p : Processor) (notices : List String) : Except RunFailure Unit :=
  (p.printer.printAll notices).mapError .unprintable

/-- What is told at the start of a run: the key, the label and the number of files. -/
def openingNotices (p : Processor) (t : Template) : List String :=
  if p.verbose then
    ["[bold]Template Processing[/bold]\nTemplate : " ++ t.key ++ " ("
      ++ (if t.label = "" then "untitled" else t.label) ++ ")\nFiles    : "
      ++ toString t.initialVersion.sourceFiles.length]
  else []

def themeNotices (p : Processor) (d : UserData) : List String :=
  (p.themeFor d).2.map fun warning => "[bold yellow]  " ++ warning ++ "[/bold yellow]"

def normalize (p : Processor) (d : UserData) : Except RunFailure (UserData × List String) := do
  p.tell (p.themeNotices d)
  pure (p.normalized d)

/-- A run on a template that has been accepted, with data that have been read. -/
def runRead (p : Processor) (t : Template) (given : UserData) (generatedAt : String) :
    Except RunFailure Project := do
  let (d, warnings) ← p.normalize given
  let (s, skipped) ← (p.setting t d).mapError .failed
  p.tell (FilledSlots.notices p.filler t.initialVersion.slots d)
  let made ← (t.initialVersion.sourceFiles.mapM (p.processFile s)).mapError .failed
  p.tell (p.rules.notices false (made.map (·.1)) t.initialVersion.constraints)
  pure (p.assemble t s made (warnings ++ skipped) generatedAt)

/-- A run on a template that has been accepted. -/
def runAccepted (p : Processor) (t : Template) (data : Supplied UserData)
    (generatedAt : String) : Except RunFailure Project := do
  p.tell (p.openingNotices t)
  let given ← (readUserData t.key data).mapError .failed
  p.runRead t given generatedAt

/-- A run: a template is processed with the caller's data, and its notices are printed. The notice
at its end holds numbers only and is left out. -/
def run (p : Processor) (template : Supplied Template) (data : Supplied UserData)
    (generatedAt : String) : Except RunFailure Project := do
  let t ← (acceptTemplate template).mapError .failed
  p.runAccepted t data generatedAt

end Processor

def pathParts (path : String) : List (List Char) :=
  (path.toList.splitOnP (· == '/')).filter fun part => !part.isEmpty && part != ['.']

def shownPath (path : String) : String :=
  let parts := (List.intercalate ['/'] (pathParts path))
  let root := path.toList.head? == some '/'
  if root then .ofList ('/' :: parts) else if parts.isEmpty then "." else .ofList parts

/-- The name of a file without its last ending; a dot at its start or its end begins none. -/
def fileStem (path : String) : String :=
  let name := (pathParts path).getLast?.getD []
  let ending := name.reverse.takeWhile (· != '.')
  let stem := name.take (name.length - ending.length - 1)
  if ending.isEmpty || stem.isEmpty then .ofList name else .ofList stem

/-- The object that a file holds. -/
def objectOfFile (content : Option String) : Except LoadFault Members :=
  match content with
  | none => .error .missingFile
  | some text =>
    match Json.parse text with
    | .error fault => .error (.unreadable fault)
    | .ok (.obj ms) => .ok ms
    | .ok v => .ok [("_root", v)]

/-- The template object that a file holds. -/
def loadTemplate (path : String) (content : Option String) : Except ProcessingFailure Members :=
  match objectOfFile content with
  | .ok ms => .ok ms
  | .error fault =>
    .error (.refused { key := fileStem path, reason := .notLoaded (shownPath path) fault })

def Processor.runFrom (p : Processor) (path : String) (content : Option String)
    (data : Supplied UserData) (generatedAt : String) : Except Processor.RunFailure Project := do
  let ms ← (loadTemplate path content).mapError .failed
  p.run (.raw (.obj ms)) data generatedAt

def Processor.processFrom (p : Processor) (path : String) (content : Option String)
    (data : Supplied UserData) (generatedAt : String) : Except ProcessingFailure Project := do
  let ms ← loadTemplate path content
  p.process (.raw (.obj ms)) data generatedAt

end SiteTemplate
