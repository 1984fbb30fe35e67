import SiteTemplate.Number.Decimal
import SiteTemplate.Project.Basic
import SiteTemplate.Text.Characters

/-!
# Reports on the console

A text is laid out in lines of limited width: a line takes as many words as fit, and a word that is
wider than the line is cut into pieces. A table has a centred title, a heading for each column, and
rows of cells; a panel is a frame around a text, as wide as the console.

The report of a validation is a table of scores, a line that counts the issues, and a line for each
issue. The summary of a project is a table of its main facts, followed by the report.
-/

namespace SiteTemplate.Console

open Text

def columns : Nat := 200

/-- The words of a line, each with the blanks after it and the first with those before it too. -/
def wordsWithBlanks (cs : List Char) : List (List Char) :=
  match cs.splitBy fun a b => !(isBlank a && !isBlank b) with
  | first :: second :: more =>
    if first.all isBlank then (first ++ second) :: more else first :: second :: more
  | short => short

/-- The longest start of a text that fits into a number of columns. -/
def cut (limit : Nat) : List Char → List Char
  | [] => []
  | c :: cs => if charWidth c ≤ limit then c :: cut (limit - charWidth c) cs else []

structure Filling where
  full : List (List Char) := []
  line : List Char := []

namespace Filling

/-- Starts a new line with a text; an empty line is not kept. -/
def startLine (s : Filling) (cs : List Char) : Filling :=
  ⟨if s.line.isEmpty then s.full else s.full ++ [s.line], cs⟩

def addChar (limit : Nat) (s : Filling) (c : Char) : Filling :=
  if width s.line + charWidth c ≤ limit then ⟨s.full, s.line ++ [c]⟩ else s.startLine [c]

/-- Adds a word to the line if it fits, and starts a new line with it if it does not; a word that
is wider than a line is cut. -/
def addWord (limit : Nat) (s : Filling) (word : List Char) : Filling :=
  let bare := width (trimEnd word)
  if width s.line + bare ≤ limit then ⟨s.full, s.line ++ word⟩
  else if limit < bare then word.foldl (addChar limit) (s.startLine [])
  else s.startLine word

end Filling

def wrapLine (limit : Nat) (cs : List Char) : List (List Char) :=
  let filled := (wordsWithBlanks cs).foldl (Filling.addWord limit) {}
  (filled.full ++ [filled.line]).map (cut limit)

/-- A control character that would move the cursor. -/
def movesCursor (c : Char) : Bool :=
  c.toNat == 7 || c.toNat == 8 || (11 ≤ c.toNat && c.toNat ≤ 13)

def wrap (limit : Nat) (s : String) : List (List Char) :=
  ((s.toList.filter (!movesCursor ·)).splitOnP (· == '\n')).flatMap (wrapLine limit)

def printed (s : String) : List String := (wrap columns s).map .ofList

inductive Side where
  | left
  | right
deriving DecidableEq, Repr

def Side.place : Side → Nat → List Char → List Char
  | .left => padEnd
  | .right => padStart

structure Table where
  title : String
  columns : List (String × Side)
  rows : List (List String)

/-- The signs of a horizontal line: at its start, between columns, at its end, and along it. -/
structure Border where
  first : Char
  between : Char
  last : Char
  along : Char

/-- A horizontal line over columns of given widths, with a blank on both sides of each. -/
def Border.line (b : Border) (widths : List Nat) : List Char :=
  b.first :: ((widths.map fun w => List.replicate (w + 2) b.along).intersperse [b.between]).flatten
    ++ [b.last]

namespace Table

private def cellLines (cell : String) : List (List Char) := cell.toList.splitOnP (· == '\n')

private def cellWidth (cell : String) : Nat := ((cellLines cell).map width).foldl max 0

def widths (t : Table) : List Nat :=
  t.rows.foldl (fun ws row => List.zipWith max ws (row.map cellWidth))
    (t.columns.map fun c => cellWidth c.1)

/-- The lines of a row; each has the cells' lines at one height, between upright signs. -/
def rowLines (t : Table) (upright : Char) (row : List String) : List (List Char) :=
  let cells := row.map cellLines
  let height := (cells.map (·.length)).foldl max 0
  let places := List.zipWith (fun c w => c.2.place w) t.columns t.widths
  (List.range height).map fun i =>
    let texts :=
      List.zipWith (fun place cell => ' ' :: place (cell[i]?.getD []) ++ [' ']) places cells
    upright :: (texts.intersperse [upright]).flatten ++ [upright]

def lines (t : Table) : List String :=
  let top := Border.line ⟨'┏', '┳', '┓', '━'⟩ t.widths
  let title := (wrap (width top) t.title).map fun line => centred (width top) (trimEnd line)
  let heading := t.rowLines '┃' (t.columns.map (·.1))
  let under := Border.line ⟨'┡', '╇', '┩', '━'⟩ t.widths
  let body := t.rows.flatMap (t.rowLines '│')
  let bottom := Border.line ⟨'└', '┴', '┘', '─'⟩ t.widths
  (title ++ [top] ++ heading ++ [under] ++ body ++ [bottom]).map .ofList

end Table

def panel (s : String) : List String :=
  let edge (first last : Char) : List Char := first :: List.replicate (columns - 2) '─' ++ [last]
  let inside := (wrap (columns - 4) s).map fun line =>
    "│ ".toList ++ padEnd (columns - 4) line ++ " │".toList
  ([edge '╭' '╮'] ++ inside ++ [edge '╰' '╯']).map .ofList

end SiteTemplate.Console

namespace SiteTemplate.Console

def severityLabel : Severity → String
  | .error => "ERROR  "
  | .warning => "WARNING"
  | .info => "INFO   "

/-- Where an issue is: its file and line, its file alone, or a dash. A line is shown without a
file too, but line zero and a file without a name are not shown. -/
def location (i : Issue) : String :=
  let file := i.file.getD "None"
  match i.line.filter (· ≠ 0) with
  | some line => s!"{file}:{line}"
  | none => (i.file.filter (!·.isEmpty)).getD "-"

def issueLine (i : Issue) : String := s!"  {severityLabel i.severity} {location i}  {i.message}"

def verdict (r : ValidationResult) : String :=
  let status := if r.isValid then "PASSED" else "FAILED"
  s!"  {status}  {r.errors.length} error(s), {r.warnings.length} warning(s), {r.infos.length} info"

def ruleScore (x : Binary64) : String := .ofList (x.fixedText 0)

def overallScore (x : Binary64) : String := .ofList (x.text .plain)

def report (r : ValidationResult) : List String :=
  let rows := r.ruleScores.map fun (name, score) => [name, ruleScore score]
  let table : Table :=
    { title := "Validation", columns := [("Rule", .left), ("Score", .right)]
      rows := rows ++ [["Overall", overallScore r.score]] }
  table.lines ++ printed (verdict r) ++ r.issues.flatMap fun i => printed (issueLine i)

/-- The lines that sum up a project. -/
def summary (p : Project) : List String :=
  let seconds := p.info.processingTimeMs.div (.ofInt 1000)
  let table : Table :=
    { title := "Template Processing Results", columns := [("Item", .left), ("Value", .left)]
      rows := [["Template", p.manifest.template], ["Project", p.manifest.name],
        ["Theme", p.manifest.theme], ["Files", toString p.manifest.fileCount],
        ["Placeholders", toString p.info.placeholderCount],
        ["Score", overallScore p.validation.score ++ "/100"],
        ["Valid", if p.validation.isValid then "yes" else "no"],
        ["Time", Duration.text seconds]] }
  table.lines ++ [""] ++ report p.validation

end SiteTemplate.Console
