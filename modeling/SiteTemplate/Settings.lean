import SiteTemplate.Json.Reader
import SiteTemplate.Json.Writer
import SiteTemplate.Record
import SiteTemplate.Text.Characters
import SiteTemplate.Text.Strings

/-!
# Settings

Settings come from a file, which is JSON in a layout of its own, or from variables of the
environment that begin with a common prefix.
-/

namespace SiteTemplate

open Record

structure ModelSettings where
  enabled : Bool := false
  apiKey : String := ""
  baseUrl : String := "https://api.openai.com/v1"
  model : String := "gpt-4o-mini"
  /-- The time allowed for a request, in seconds. -/
  timeout : Binary64 := .ofRatio false 20 1
  temperature : Binary64 := .ofRatio false 7 10
deriving DecidableEq

namespace ModelSettings

def read : Json → Reading ModelSettings := Record.read fun o =>
  pure mk
    <*> optional o (.single "enabled") false Read.bool
    <*> optional o (.single "api_key") "" Read.text
    <*> optional o (.single "base_url") "https://api.openai.com/v1" Read.text
    <*> optional o (.single "model") "gpt-4o-mini" Read.text
    <*> optional o (.single "timeout") (.ofRatio false 20 1) (Read.floatAbove 0)
    <*> optional o (.single "temperature") (.ofRatio false 7 10) (Read.floatWithin 0 2)

def toJson (s : ModelSettings) : Json :=
  .obj [("enabled", .bool s.enabled), ("api_key", .str s.apiKey), ("base_url", .str s.baseUrl),
    ("model", .str s.model), ("timeout", .float s.timeout), ("temperature", .float s.temperature)]

/-- Whether the content model is asked: it must be switched on and have a key. -/
def isActive (s : ModelSettings) : Bool := s.enabled && s.apiKey != ""

end ModelSettings

structure ProcessingSettings where
  defaultBrandName : String := "Online Store"
  defaultTheme : String := "modern"
  maxParallelResolutions : Nat := 8
  maxParallelFiles : Nat := 4
  verbose : Bool := true
deriving DecidableEq

namespace ProcessingSettings

def read : Json → Reading ProcessingSettings := Record.read fun o =>
  pure mk
    <*> optional o (.single "default_brand_name") "Online Store" Read.text
    <*> optional o (.single "default_theme") "modern" Read.text
    <*> optional o (.single "max_parallel_resolutions") 8 Read.positive
    <*> optional o (.single "max_parallel_files") 4 Read.positive
    <*> optional o (.single "verbose") true Read.bool

def toJson (s : ProcessingSettings) : Json :=
  .obj [("default_brand_name", .str s.defaultBrandName), ("default_theme", .str s.defaultTheme),
    ("max_parallel_resolutions", .int s.maxParallelResolutions),
    ("max_parallel_files", .int s.maxParallelFiles), ("verbose", .bool s.verbose)]

end ProcessingSettings

structure Settings where
  ai : ModelSettings := {}
  processing : ProcessingSettings := {}
deriving DecidableEq

namespace Settings

def read : Json → Reading Settings := Record.read fun o =>
  pure mk
    <*> optional o (.single "ai") {} ModelSettings.read
    <*> optional o (.single "processing") {} ProcessingSettings.read

def toJson (s : Settings) : Json :=
  .obj [("ai", s.ai.toJson), ("processing", s.processing.toJson)]

end Settings

end SiteTemplate

namespace SiteTemplate

open Text

/-- A value of a variable that cannot be read as a number. -/
inductive BadNumeral where
  | int (value : String)
  | float (value : String)
deriving DecidableEq, Repr

def BadNumeral.message : BadNumeral → String
  | .int value =>
    match Numeral.settingDigits? value with
    | some (_, ds) => overlongMessage ds.length
    | none => "invalid literal for int() with base 10: " ++ quotedString value
  | .float value => "could not convert string to float: " ++ quotedString value

inductive EnvironmentError where
  | numeral (e : BadNumeral)
  | faults (fs : List Fault)
deriving DecidableEq

namespace Settings

/-- The value of a variable that is set and not empty. -/
def given? (env : Entries String String) (name : String) : Option String :=
  (Entries.get? env name).filter (· != "")

def onWords : List String := ["1", "true", "yes", "on"]

def asText (key : String) (value : Option String) : Members :=
  (value.map fun s => (key, Json.str s)).toList

def asInt (key : String) : Option String → Except EnvironmentError Members
  | none => .ok []
  | some s =>
    match Numeral.settingInt? s with
    | some n => .ok [(key, .int n)]
    | none => .error (.numeral (.int s))

def asFloat (key : String) : Option String → Except EnvironmentError Members
  | none => .ok []
  | some s =>
    match Numeral.settingFloat? s with
    | some x => .ok [(key, .float x)]
    | none => .error (.numeral (.float s))

def enabledIn (env : Entries String String) : Bool :=
  match given? env "TEMPLATE_AI_ENABLED" with
  | some s => onWords.contains (lowered (trimmed s))
  | none => (given? env "TEMPLATE_AI_API_KEY").isSome

/-- A reading whose faults are those of the environment. -/
def checked {α : Type} (r : Reading α) : Except EnvironmentError α :=
  match (r : Except (List Fault) α) with
  | .ok a => .ok a
  | .error fs => .error (.faults fs)

/-- The settings that the environment gives. -/
def ofEnvironment (env : Entries String String) : Except EnvironmentError Settings := do
  let timeout ← asFloat "timeout" (given? env "TEMPLATE_AI_TIMEOUT")
  let resolutions ← asInt "max_parallel_resolutions"
    (given? env "TEMPLATE_MAX_PARALLEL_RESOLUTIONS")
  let files ← asInt "max_parallel_files" (given? env "TEMPLATE_MAX_PARALLEL_FILES")
  let ai ← checked (ModelSettings.read (.obj
    ([("enabled", .bool (enabledIn env))]
      ++ asText "api_key" (given? env "TEMPLATE_AI_API_KEY")
      ++ asText "base_url" (given? env "TEMPLATE_AI_BASE_URL")
      ++ asText "model" (given? env "TEMPLATE_AI_MODEL") ++ timeout)))
  let processing ← checked (ProcessingSettings.read (.obj
    (asText "default_brand_name" (given? env "TEMPLATE_DEFAULT_BRAND")
      ++ asText "default_theme" (given? env "TEMPLATE_DEFAULT_THEME")
      ++ resolutions ++ files)))
  pure { ai, processing }

end Settings

end SiteTemplate

namespace SiteTemplate.Settings

def save (s : Settings) : String := s.toJson.render .saved

def load (text : String) : Reading Settings :=
  match Json.parse text with
  | .ok v => read v
  | .error _ => .fault .brokenText

end SiteTemplate.Settings
