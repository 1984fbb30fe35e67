import SiteTemplate.CommandLine.Arguments
import SiteTemplate.Console.Progress
import SiteTemplate.Project.Processor
import SiteTemplate.Settings

/-!
# A run of the command line

A run is a function of the words of the command line, the environment and the files that they name.
It ends with an exit code, the lines that it prints and perhaps a file that it writes: code zero if
a valid project was made or help was asked for, two if the words are wrong, and one otherwise. What
stops a run before it can end in this way is a crash.
-/

namespace SiteTemplate.CommandLine

open Console

/-- What stands at a path. -/
inductive Entry where
  | file (content : String)
  /-- A file whose bytes are no text. -/
  | bytes
  | directory
  | missing
deriving DecidableEq, Repr

def Entry.exists? : Entry → Bool
  | .missing => false
  | _ => true

def Entry.isFile : Entry → Bool
  | .file _ | .bytes => true
  | _ => false

def Entry.content? : Entry → Option String
  | .file content => some content
  | _ => none

/-- What a run depends on besides its words. -/
structure Surroundings where
  look : String → Entry
  environment : Entries String String := []
  engine : PatternEngine := Pattern.engine
  /-- The time that is noted in the manifest. -/
  now : String := ""

structure Ending where
  exitCode : Nat
  lines : List String := []
  /-- The path and the content of the file that is written. -/
  written : Option (String × String) := none
deriving DecidableEq, Repr

/-- Why a run stops without an ending. -/
inductive Crash where
  | unreadableData (fault : LoadFault)
  | dataIsBytes
  | dataIsDirectory
  | environment (e : EnvironmentError)
  | registry (e : RegistryError)
  | theme (e : ThemeError)
  | versionNotObject
  | outputIsDirectory
  /-- The output is to stand in a file. -/
  | outputParentIsFile
  /-- A directory on the way to the output cannot be made, as there is a file on that way. -/
  | outputBeneathFile

/-- A run whose result is known and which has still to be reported. -/
structure Worked where
  output : Option String
  verbose : Bool
  lines : List String
  result : Except ProcessingError Project

/-- A member that an argument overrides; an empty argument overrides nothing. -/
def overridden (key : String) (value : Option String) (ms : Members) : Members :=
  match value.filter (· != "") with
  | none => ms
  | some s => Entries.put key (.str s) ms

/-- The caller's data that a file holds, if one is named. -/
def readData (s : Surroundings) : Option String → Except Crash Members
  | none => .ok []
  | some path =>
    match s.look path with
    | .bytes => .error .dataIsBytes
    | .directory => .error .dataIsDirectory
    | entry =>
      match objectOfFile entry.content? with
      | .ok ms => .ok ms
      | .error fault => .error (.unreadableData fault)

def settingsFor (s : Surroundings) (a : Arguments) : Except Crash Settings :=
  match Settings.ofEnvironment s.environment with
  | .error e => .error (.environment e)
  | .ok settings =>
    .ok { ai := if a.noModel then { settings.ai with enabled := false } else settings.ai
          processing :=
            if a.quiet then { settings.processing with verbose := false }
            else settings.processing }

/-- The processor of a run; it asks no content model. -/
def processorFor (s : Surroundings) (a : Arguments) : Except Crash Processor := do
  let settings ← settingsFor s a
  match Processor.create settings none none .standard with
  | .ok p => .ok { p with engine := s.engine }
  | .error e => .error (.registry e)

/-- Works on a template with the caller's data. -/
def work (s : Surroundings) (a : Arguments) (p : Processor) (path : String) (data : Members) :
    Except Crash Worked :=
  let given : Supplied UserData := .raw (.obj data)
  let worked (lines : List String) (r : Except ProcessingFailure Project) : Except Crash Worked :=
    let done (result : Except ProcessingError Project) : Except Crash Worked :=
      .ok { output := a.output.filter (· != ""), verbose := p.settings.processing.verbose, lines
            result }
    match r with
    | .ok project => done (.ok project)
    | .error (.refused e) => done (.error e)
    | .error (.theme e) => .error (.theme e)
    | .error .versionNotObject => .error .versionNotObject
  match loadTemplate path (s.look path).content? with
  | .error e => worked [] (.error e)
  | .ok ms =>
    match Processor.acceptTemplate (.raw (.obj ms)) with
    | .error e => worked [] (.error e)
    | .ok t => worked (progress p t given) (p.processAccepted t given s.now)

def timed (milliseconds : Binary64) (r : Project) : Project :=
  { r with info := { r.info with processingTimeMs := milliseconds } }

def errorLine (message : String) : Ending :=
  { exitCode := 1, lines := printed message }

/-- The directories on the way to a path, the nearest first. -/
def directoriesOf (path : String) : List String :=
  let parts := (pathParts path).dropLast
  let root := if path.toList.head? == some '/' then "/" else ""
  (List.range parts.length).map fun n =>
    root ++ .ofList (List.intercalate ['/'] (parts.take (parts.length - n)))

/-- Why no file can be written at a path; missing directories are made. -/
def obstacle? (s : Surroundings) (path : String) : Option Crash :=
  let above := (directoriesOf path).map s.look
  if above.head?.any (·.isFile) then some .outputParentIsFile
  else if above.any (·.isFile) then some .outputBeneathFile
  else if s.look path = .directory then some .outputIsDirectory
  else none

/-- Reports a run that took some time. -/
def report (s : Surroundings) (milliseconds : Binary64) (w : Worked) : Except Crash Ending :=
  match w.result with
  | .error e => .ok { exitCode := 1, lines := w.lines ++ printed ("Processing failed: " ++ e.message) }
  | .ok project =>
    let project := timed milliseconds project
    let seconds := milliseconds.div (.ofInt 1000)
    let closed := if w.verbose then printed (closing project seconds) else []
    let told := w.lines ++ closed ++ summary project
    let verdict := if project.validation.isValid then [] else printed "Validation reported errors."
    let exitCode := if project.validation.isValid then 0 else 1
    match w.output with
    | none => .ok { exitCode, lines := told ++ verdict }
    | some path =>
      match obstacle? s path with
      | some crash => .error crash
      | none =>
        .ok { exitCode, lines := told ++ printed ("Wrote " ++ path) ++ verdict
              written := some (path, (project.toJson .wire).render .indented) }

/-- The work that the words of a command line ask for, or the ending of a run without work. -/
def start (s : Surroundings) (argv : List String) : Except Crash (Except Ending Worked) :=
  match Arguments.ofTexts argv with
  | .error .help => .ok (.error { exitCode := 0 })
  | .error .usage => .ok (.error { exitCode := 2 })
  | .ok a =>
    let path := a.template.getD ""
    let data := a.data.filter (· != "")
    if !(s.look path).exists? then
      .ok (.error (errorLine ("Error: Template file not found: " ++ shownPath path)))
    else if data.any fun path => !(s.look path).exists? then
      .ok (.error (errorLine ("Error: User data file not found: " ++ shownPath (data.getD ""))))
    else do
      let ms ← readData s data
      let ms := overridden "brandName" a.brand (overridden "theme" a.theme ms)
      let p ← processorFor s a
      (work s a p path ms).map .ok

def run (s : Surroundings) (argv : List String) (milliseconds : Binary64) : Except Crash Ending := do
  match ← start s argv with
  | .error ending => pure ending
  | .ok worked => report s milliseconds worked

end SiteTemplate.CommandLine
