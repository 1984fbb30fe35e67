import SiteTemplate.Console.Report
import SiteTemplate.Project.Processor

/-!
# Progress of a run

A run tells what it works on, what it could not use, which files are done and how it ended. Files
are worked on in turns, at most so many at a time. A file with placeholders gives up its turn three
times before it is done, so that files without placeholders are done earlier; a file that cannot be
made stops the run two turns later.
-/

namespace SiteTemplate.Console

/-- The work on a file. -/
structure Job where
  /-- The line that is printed when the file is done. -/
  line : Option String
  /-- How often the file has yet to give up its turn. -/
  pauses : Nat := 0
  fails : Bool := false

/-- What waits for its turn. -/
inductive Turn where
  /-- A file that is not yet one of those worked on. -/
  | enter (j : Job)
  | work (j : Job)
  /-- A file could not be made. -/
  | failed
  /-- All work stops. -/
  | stopped

/-- The lines of the turns in a queue, with a number of places for files that are worked on and the
files that wait for a place. The first argument bounds the number of turns. -/
def turnLines : Nat → Nat → List Job → List Turn → List String
  | 0, _, _, _ => []
  | _, _, _, [] => []
  | _, _, _, .stopped :: _ => []
  | n + 1, places, waiting, .failed :: queue => turnLines n places waiting (queue ++ [.stopped])
  | n + 1, 0, waiting, .enter j :: queue => turnLines n 0 (waiting ++ [j]) queue
  | n + 1, places + 1, waiting, .enter j :: queue => turnLines n places waiting (.work j :: queue)
  | n + 1, places, waiting, .work j :: queue =>
    if j.fails then leave n places waiting (queue ++ ·) [.failed]
    else if 0 < j.pauses then
      turnLines n places waiting (queue ++ [.work { j with pauses := j.pauses - 1 }])
    else j.line.toList ++ leave n places waiting (queue ++ ·) []
where
  /-- Goes on after a file has left its place to the next one that waits. -/
  leave (n places : Nat) (waiting : List Job) (queue : List Turn → List Turn)
      (last : List Turn) : List String :=
    match waiting with
    | [] => turnLines n (places + 1) [] (queue last)
    | next :: waiting => turnLines n places waiting (queue (.work next :: last))

/-- The lines of jobs of which at most `limit` are worked on at a time. -/
def jobLines (limit : Nat) (jobs : List Job) : List String :=
  turnLines (8 * jobs.length + 8) limit [] (jobs.map .enter)

def jobOf (p : Processor) (s : Processor.Setting) (f : SourceFile) : Job :=
  match p.processFile s f with
  | .error _ => { line := none, fails := true }
  | .ok (_, count) =>
    match f.encoding with
    | .base64 => { line := none }
    | .utf8 =>
      { line := some s!"  {f.path}: {count} placeholder(s) resolved"
        pauses := if count = 0 then 0 else 3 }

def announcement (t : Template) : List String :=
  let label := if t.label = "" then "untitled" else t.label
  let count := t.initialVersion.sourceFiles.length
  panel s!"Template Processing\nTemplate : {t.key} ({label})\nFiles    : {count}"

/-- The lines about slots for which a check is impossible. -/
def slotLines (filler : SlotFiller) (t : Template) (d : UserData) : List String :=
  t.initialVersion.slots.flatMap fun (slot, s) =>
    match s.checkedValues filler slot d with
    | .ok _ => []
    | .error e => printed s!"  Slot '{slot}' could not be filled: {e.message}"

def ruleLines (p : Processor) (t : Template) (files : List ProcessedFile) : List String :=
  p.rules.rules.flatMap fun r =>
    match (r.check files t.initialVersion.constraints).settled with
    | .ok _ => []
    | .error message => printed s!"  Validation rule {r.name} failed: {message}"

def closing (r : Project) (seconds : Binary64) : String :=
  let count := r.files.length
  let score := overallScore r.validation.score
  let time := Duration.text seconds
  s!"  Processed {count} file(s) ({r.info.placeholderCount} placeholders, score {score}) in {time}"

/-- The lines of a run on an accepted template up to its end. -/
def progress (p : Processor) (t : Template) (data : Supplied UserData) : List String :=
  let verbose := p.settings.processing.verbose
  let start := if verbose then announcement t else []
  match Processor.readUserData t.key data with
  | .error _ => start
  | .ok given =>
    let (d, warnings) := p.normalized given
    let warned := start ++ warnings.flatMap fun w => printed ("  " ++ w)
    match p.setting t d with
    | .error _ => warned
    | .ok (s, _) =>
      let sources := t.initialVersion.sourceFiles
      let limit := p.settings.processing.maxParallelFiles
      let done := if verbose then (jobLines limit (sources.map (jobOf p s))).flatMap printed else []
      let judged := match sources.mapM (p.processFile s) with
        | .error _ => []
        | .ok made => ruleLines p t (made.map (·.1))
      warned ++ slotLines p.filler t d ++ done ++ judged

end SiteTemplate.Console
