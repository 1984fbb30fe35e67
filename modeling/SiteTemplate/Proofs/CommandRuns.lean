import SiteTemplate.CommandLine.Run
import SiteTemplate.Proofs.Refusals

/-!
# How runs of the command line end

A run that is asked for by its words either ends or breaks off. It ends with code zero exactly if a
project is made that validates without errors, and with code one after a complaint otherwise; the
project is written wherever an output is named, valid or not. It breaks off where the caller's data
stand in no file of JSON, where processing does not end with a project or a refusal, and where
nothing can be written at the output.
-/

namespace SiteTemplate.CommandLine

open Console

namespace Arguments

/-- The path of the template. -/
def templatePath (a : Arguments) : String := a.template.getD ""

/-- The path of the caller's data, if one is named. -/
def dataPath? (a : Arguments) : Option String := a.data.filter (· != "")

/-- The path of the output, if one is named. -/
def outputPath? (a : Arguments) : Option String := a.output.filter (· != "")

/-- The caller's data with the overrides of the command line. -/
def override (a : Arguments) (data : Members) : Members :=
  overridden "brandName" a.brand (overridden "theme" a.theme data)

/-- The processor of a run where the environment has no settings. -/
def processor (a : Arguments) (engine : PatternEngine) : Processor where
  engine
  settings :=
    { ai := if a.noModel then { enabled := false } else {}
      processing := if a.quiet then { verbose := false } else {} }

end Arguments

/-- What becomes of the template with the caller's data. -/
def processed (s : Surroundings) (a : Arguments) (data : Members) :
    Except ProcessingFailure Project :=
  (a.processor s.engine).processFrom a.templatePath (s.look a.templatePath).content?
    (.raw (.obj (a.override data))) s.now

/-- A run makes a project. -/
def Makes (s : Surroundings) (a : Arguments) (project : Project) : Prop :=
  ∃ data, readData s a.dataPath? = .ok data ∧ processed s a data = .ok project

/-- What stands at a path cannot be read as JSON. -/
def Entry.HoldsNoJson : Entry → Prop
  | .file text => ∃ fault, Json.parse text = .error fault
  | .bytes | .directory => True
  | .missing => False

/-- No file can be written at a path: a directory stands there, or a file stands on the way. -/
def Surroundings.Bars (s : Surroundings) (file : String) : Prop :=
  s.look file = .directory ∨ ∃ above ∈ directoriesOf file, (s.look above).isFile

/-- A run breaks off: at data that hold no JSON, at a template whose faults cannot be told, at a bad
colour in a customization, or at an output where nothing can be written. -/
inductive BreaksOff (s : Surroundings) (a : Arguments) : Prop where
  | data {file : String} (htemplate : s.look a.templatePath ≠ .missing)
      (hpath : a.dataPath? = some file) (hdata : (s.look file).HoldsNoJson)
  | template {data ms : Members} (hdata : readData s a.dataPath? = .ok data)
      (hload : loadTemplate a.templatePath (s.look a.templatePath).content? = .ok ms)
      (huntold : Template.IsUntold ms)
  | color {data ms : Members} {t : Template} {d : UserData}
      (hdata : readData s a.dataPath? = .ok data)
      (hload : loadTemplate a.templatePath (s.look a.templatePath).content? = .ok ms)
      (htemplate : Processor.acceptTemplate (.raw (.obj ms)) = .ok t)
      (hread : Processor.readUserData t.key (.raw (.obj (a.override data))) = .ok d)
      (hcolor : Customization.HasBadColor d.customizations)
  | output {project : Project} {file : String} (hmakes : Makes s a project)
      (hpath : a.outputPath? = some file) (hbars : s.Bars file)

variable {s : Surroundings} {a : Arguments} {argv : List String} {data ms : Members}
  {milliseconds : Binary64} {project : Project} {file : String}

/-- The files that are named for reading are there. -/
def Found (s : Surroundings) (a : Arguments) : Prop :=
  s.look a.templatePath ≠ .missing ∧ ∀ file, a.dataPath? = some file → s.look file ≠ .missing

theorem ne_missing_of_loadTemplate {path : String} {e : Entry}
    (h : loadTemplate path e.content? = .ok ms) : e ≠ .missing := by
  rintro rfl
  cases h

theorem fails_readData_some_iff :
    Fails (readData s (some file)) ↔ s.look file = .missing ∨ (s.look file).HoldsNoJson := by
  rw [readData]
  cases s.look file with
  | file text =>
    cases hparse : Json.parse text with
    | error fault => simp [objectOfFile, Entry.content?, Entry.HoldsNoJson, hparse]
    | ok v => cases v <;> simp [objectOfFile, Entry.content?, Entry.HoldsNoJson, hparse]
  | bytes | directory | missing => simp [objectOfFile, Entry.content?, Entry.HoldsNoJson]

theorem ne_missing_of_readData (hdata : readData s a.dataPath? = .ok data)
    (hpath : a.dataPath? = some file) : s.look file ≠ .missing := by
  intro hmissing
  have hfails := fails_readData_some_iff.mpr (.inl hmissing)
  rw [← hpath, hdata] at hfails
  exact not_fails_ok _ hfails

theorem Makes.found (h : Makes s a project) : Found s a := by
  obtain ⟨data, hdata, hprocessed⟩ := h
  cases hload : loadTemplate a.templatePath (s.look a.templatePath).content? with
  | error e =>
    rw [processed, Processor.processFrom, hload] at hprocessed
    cases hprocessed
  | ok ms => exact ⟨ne_missing_of_loadTemplate hload, fun _ => ne_missing_of_readData hdata⟩

theorem BreaksOff.found (h : BreaksOff s a) : Found s a := by
  cases h with
  | data htemplate hpath hno =>
    refine ⟨htemplate, fun other hother hmissing => ?_⟩
    obtain rfl := Option.some.inj (hpath.symm.trans hother)
    rw [hmissing] at hno
    exact hno
  | template hdata hload | color hdata hload =>
    exact ⟨ne_missing_of_loadTemplate hload, fun _ => ne_missing_of_readData hdata⟩
  | output hmakes => exact hmakes.found

namespace Course

variable {result : Except Crash Ending} {e : Ending}

end Course

end SiteTemplate.CommandLine
