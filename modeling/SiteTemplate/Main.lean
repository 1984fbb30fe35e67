import SiteTemplate.CommandLine.Run
import Std.Time.DateTime.Timestamp

/-!
# The command line

Reads the environment and the files that the words name, runs, prints and writes. The time of a run
is a number of microseconds since the start of 1970, shown as a date and a time of day in universal
time.
-/

namespace SiteTemplate.Instant

def daysBefore1970 : Nat := 719468

/-- The year, month and day of a number of days since the start of 1970. Years are counted from
March, so that a leap day ends its year. -/
def date (days : Nat) : Nat × Nat × Nat :=
  let day := days + daysBefore1970
  let era := day / 146097
  let dayOfEra := day % 146097
  let yearOfEra := (dayOfEra - dayOfEra / 1460 + dayOfEra / 36524 - dayOfEra / 146096) / 365
  let dayOfYear := dayOfEra - (365 * yearOfEra + yearOfEra / 4 - yearOfEra / 100)
  let month := (5 * dayOfYear + 2) / 153
  let year := yearOfEra + era * 400
  (if month < 10 then year else year + 1, if month < 10 then month + 3 else month - 9,
    dayOfYear - (153 * month + 2) / 5 + 1)

def padded (width n : Nat) : String := .ofList ((Nat.toDigits 10 n).leftpad width '0')

def text (microseconds : Nat) : String :=
  let seconds := microseconds / 1000000
  let fraction := microseconds % 1000000
  let (year, month, day) := date (seconds / 86400)
  let ofDay := seconds % 86400
  let places := if fraction = 0 then "" else "." ++ padded 6 fraction
  padded 4 year ++ "-" ++ padded 2 month ++ "-" ++ padded 2 day ++ "T" ++ padded 2 (ofDay / 3600)
    ++ ":" ++ padded 2 (ofDay / 60 % 60) ++ ":" ++ padded 2 (ofDay % 60) ++ places ++ "+00:00"

end SiteTemplate.Instant

namespace SiteTemplate.CommandLine

def usage : String :=
  "usage: sitetemplate [-h] [--data DATA] [--output OUTPUT] [--theme THEME] [--brand BRAND]\n"
    ++ "                    [--no-ai] [--quiet] template"

def variableNames : List String :=
  ["TEMPLATE_AI_ENABLED", "TEMPLATE_AI_API_KEY", "TEMPLATE_AI_BASE_URL", "TEMPLATE_AI_MODEL",
    "TEMPLATE_AI_TIMEOUT", "TEMPLATE_DEFAULT_BRAND", "TEMPLATE_DEFAULT_THEME",
    "TEMPLATE_MAX_PARALLEL_RESOLUTIONS", "TEMPLATE_MAX_PARALLEL_FILES"]

/-- The text of a crash. -/
def Crash.message : Crash → String
  | .unreadableData .missingFile => "the user data file is missing"
  | .unreadableData (.unreadable .broken) => "the user data file does not hold JSON"
  | .unreadableData (.unreadable (.overlong digits)) => Text.overlongMessage digits
  | .dataIsBytes => "the user data file does not hold text"
  | .dataIsDirectory => "the user data file is a directory"
  | .environment (.numeral e) => e.message
  | .environment (.faults fs) => faultCount fs "Config"
  | .registry e => e.message
  | .theme e => e.text
  | .versionNotObject => "the version of the template is not an object"
  | .outputIsDirectory => "the output file is a directory"
  | .outputParentIsFile => "the directory of the output file is a file"
  | .outputBeneathFile => "there is a file on the way to the output file"

def parentOf (path : String) : String :=
  let parts := (pathParts path).dropLast.map String.ofList
  let start := if path.toList.head? == some '/' then "/" else "./"
  start ++ "/".intercalate parts

private def entryAt (path : String) : IO Entry := do
  try
    return match String.fromUTF8? (← IO.FS.readBinFile (shownPath path)) with
      | some content => .file content
      | none => .bytes
  catch
    | .noFileOrDirectory .. => return .missing
    | _ => return .directory

private def lookAt (paths : List String) : IO (String → Entry) := do
  let entries ← paths.mapM fun path => do return (path, ← entryAt path)
  return fun path => (entries.lookup path).getD .missing

private def environment : IO (Entries String String) := do
  let values ← variableNames.mapM fun name => do return (name, ← IO.getEnv name)
  return values.filterMap fun (name, value) => value.map (name, ·)

private def now : IO String := do
  let t ← Std.Time.Timestamp.now
  return Instant.text (t.toNanosecondsSinceUnixEpoch.val.toNat / 1000)

private def finish (e : Ending) : IO UInt32 := do
  if e.exitCode = 2 then IO.eprintln usage
  if e.exitCode = 0 && e.lines.isEmpty then IO.println usage
  for line in e.lines do
    IO.println line
  match e.written with
  | none => pure ()
  | some (path, content) => do
    IO.FS.createDirAll (parentOf path)
    IO.FS.writeFile (shownPath path) content
  return e.exitCode.toUInt32

private def crash (c : Crash) : IO UInt32 := do
  IO.eprintln c.message
  return 1

end SiteTemplate.CommandLine

section

open SiteTemplate SiteTemplate.CommandLine

/-- Runs the command line. -/
def main (argv : List String) : IO UInt32 := do
  let named := match Arguments.ofTexts argv with
    | .ok a =>
      a.template.toList ++ a.data.toList
        ++ a.output.toList.flatMap fun path => path :: directoriesOf path
    | .error _ => []
  let s : Surroundings := { look := ← lookAt named, environment := ← environment, now := ← now }
  let started ← IO.monoMsNow
  match start s argv with
  | .error c => crash c
  | .ok (.error e) => finish e
  | .ok (.ok worked) => do
    let elapsed := (← IO.monoMsNow) - started
    match report s (.ofInt elapsed) worked with
    | .error c => crash c
    | .ok e => finish e

end
