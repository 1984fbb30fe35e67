import Mathlib.Algebra.GroupWithZero.Nat
import SiteTemplate.Project.Processor
import SiteTemplate.Proofs.Rendering

/-!
# File by file

The files of a project are made one for one from the sources of its template, each from its source
alone. So a run with some of the sources, in any order, makes the same files of them.
-/

namespace SiteTemplate

/-- The template with other sources. -/
def Template.withSources (t : Template) (fs : List SourceFile) : Template :=
  { t with initialVersion := { t.initialVersion with sourceFiles := fs } }

/-- The number of placeholders in a list of sources; those in Base64 have none. -/
def placeholdersIn (fs : List SourceFile) : Nat :=
  ((fs.filter (·.encoding = .utf8)).map fun f => (Placeholder.inText f.content f.path).length).sum

theorem placeholdersIn_append (fs gs : List SourceFile) :
    placeholdersIn (fs ++ gs) = placeholdersIn fs + placeholdersIn gs := by
  simp [placeholdersIn]

namespace Processor

variable {p : Processor} {s : Setting} {f : SourceFile}

/-- What a finished file has to be, given the source from which it is made. -/
structure MadeFrom (p : Processor) (s : Setting) (f : SourceFile) (file : ProcessedFile) : Prop
    where
  path : file.path = f.path
  type : file.type = f.type.name
  checksum : file.checksum = Sha256.ofText file.content
  /-- A text is rendered and put into the skin of the theme, and measured then. -/
  utf8 : f.encoding = .utf8 → ∃ rendered, p.renderSource s f
      = .ok (rendered, (Placeholder.inText f.content f.path).length)
    ∧ p.registry.reskin rendered s.data.theme s.data.customizations = .ok file.content
    ∧ file.size = file.content.utf8ByteSize
  /-- A file in Base64 stays as it is. -/
  base64 : f.encoding = .base64 →
    file.content = f.content
      ∧ ∃ bytes, Base64.decode f.content.toList = .ok bytes ∧ file.size = bytes.length

private theorem count_of_renderSource {rendered : String} {count : Nat}
    (h : p.renderSource s f = .ok (rendered, count)) :
    count = (Placeholder.inText f.content f.path).length := by
  obtain ⟨value, hfill, -⟩ := Resolver.render_eq_ok_iff.1 h
  exact congrArg Prod.snd hfill

private theorem makeText_eq_ok_iff {made : String × Nat} : p.makeText s f = .ok made ↔
    ∃ rendered, p.renderSource s f = .ok (rendered, made.2)
      ∧ p.registry.reskin rendered s.data.theme s.data.customizations = .ok made.1
      ∧ p.printer.Prints (p.fileNotices f made.2) := by
  simp only [makeText, bind_eq_ok_iff, mapError_eq_ok_iff, Printer.printAll_eq_ok_iff, pure,
    Except.pure, Except.ok.injEq]
  constructor
  · rintro ⟨⟨rendered, count⟩, hrender, content, hskin, -, hprints, rfl⟩
    exact ⟨rendered, hrender, hskin, hprints⟩
  · rintro ⟨rendered, hrender, hskin, hprints⟩
    exact ⟨_, hrender, _, hskin, (), hprints, rfl⟩

theorem madeFrom_of_processFile {made : ProcessedFile × Nat} (h : p.processFile s f = .ok made) :
    p.MadeFrom s f made.1 ∧ made.2 = placeholdersIn [f] := by
  unfold processFile at h
  cases hencoding : f.encoding with
  | base64 =>
    simp only [hencoding] at h
    cases hdecode : Base64.decode f.content.toList with
    | error fault => simp [hdecode] at h
    | ok bytes =>
      rw [hdecode] at h
      cases h
      refine ⟨⟨rfl, rfl, rfl, ?_, fun _ => ⟨rfl, bytes, hdecode, rfl⟩⟩, ?_⟩
      · simp [hencoding]
      · simp [placeholdersIn, hencoding]
  | utf8 =>
    simp only [hencoding] at h
    cases htext : p.makeText s f with
    | error reason => simp [htext] at h
    | ok text =>
      obtain ⟨rendered, hrender, hskin, -⟩ := makeText_eq_ok_iff.1 htext
      have hcount := count_of_renderSource hrender
      rw [htext] at h
      cases h
      refine ⟨⟨rfl, rfl, rfl, fun _ => ⟨rendered, ?_, hskin, ?_⟩, ?_⟩, ?_⟩
      · rw [hrender, hcount]
      · exact Text.byteLength_eq_utf8ByteSize text.1
      · simp [hencoding]
      · simp [placeholdersIn, hencoding, hcount]

theorem placeholderTotal_map {made : SourceFile → ProcessedFile × Nat} {fs : List SourceFile}
    (h : ∀ f ∈ fs, (made f).2 = placeholdersIn [f]) :
    placeholderTotal (fs.map made) = placeholdersIn fs := by
  induction fs with
  | nil => rfl
  | cons f fs ih =>
    rw [List.forall_mem_cons] at h
    change (made f).2 + placeholderTotal (fs.map made) = placeholdersIn ([f] ++ fs)
    rw [placeholdersIn_append, h.1, ih h.2]

variable {template : Supplied Template} {data : Supplied UserData} {generatedAt : String}
  {t : Template} {project : Project}

theorem acceptTemplate_eq_ok_iff : acceptTemplate template = .ok t ↔
    readTemplate template = .ok t ∧ t.key ≠ "" ∧ t.initialVersion.sourceFiles ≠ [] := by
  have herrors (t : Template) : (Outline.ofTemplate t).errors = []
      ↔ t.key ≠ "" ∧ t.initialVersion.sourceFiles ≠ [] := by
    simp [Outline.errors, Outline.ofTemplate]
  simp only [acceptTemplate, bind_eq_ok_iff]
  constructor
  · rintro ⟨t', hread, haccept⟩
    split at haccept
    · rename_i hmissing
      cases haccept
      exact ⟨hread, (herrors t).1 (List.isEmpty_iff.1 hmissing)⟩
    · cases haccept
  · rintro ⟨hread, hcomplete⟩
    refine ⟨t, hread, ?_⟩
    rw [(herrors t).2 hcomplete]
    rfl

theorem process_eq_ok_iff : p.process template data generatedAt = .ok project ↔
    ∃ t d s skipped made, acceptTemplate template = .ok t ∧ readUserData t.key data = .ok d
      ∧ p.setting t (p.normalized d).1 = .ok (s, skipped)
      ∧ t.initialVersion.sourceFiles.mapM (p.processFile s) = .ok made
      ∧ p.assemble t s made ((p.normalized d).2 ++ skipped) generatedAt = project := by
  simp [process, processAccepted, bind_eq_ok_iff, pure, Except.pure]

/-- What is told about a run as a whole, apart from its end. -/
def runNotices (p : Processor) (t : Template) (d : UserData) (files : List ProcessedFile) :
    List String :=
  p.openingNotices t ++ p.themeNotices d
    ++ FilledSlots.notices p.filler t.initialVersion.slots (p.normalized d).1
    ++ p.rules.notices false files t.initialVersion.constraints

theorem tell_eq_ok_iff {notices : List String} {u : Unit} :
    p.tell notices = .ok u ↔ p.printer.Prints notices := by
  rw [tell, mapError_eq_ok_iff, Printer.printAll_eq_ok_iff]

/-- A run makes the project of its template exactly if all that is told can be printed. -/
theorem run_eq_ok_iff : p.run template data generatedAt = .ok project ↔
    p.process template data generatedAt = .ok project
      ∧ ∀ t d, acceptTemplate template = .ok t → readUserData t.key data = .ok d →
        p.printer.Prints (p.runNotices t d project.files) := by
  have hprints (t : Template) (d : UserData) (made : List (ProcessedFile × Nat)) :
      p.printer.Prints (p.runNotices t d (made.map (·.1)))
        ↔ p.printer.Prints (p.openingNotices t) ∧ p.printer.Prints (p.themeNotices d)
          ∧ p.printer.Prints (FilledSlots.notices p.filler t.initialVersion.slots
            (p.normalized d).1)
          ∧ p.printer.Prints (p.rules.notices false (made.map (·.1))
            t.initialVersion.constraints) := by
    simp only [Printer.Prints, runNotices, List.forall_mem_append, and_assoc]
  constructor
  · intro h
    simp only [run, runAccepted, runRead, normalize, bind_eq_ok_iff, mapError_eq_ok_iff,
      tell_eq_ok_iff, pure, Except.pure, Except.ok.injEq] at h
    obtain ⟨t, ht, -, hopening, d, hd, -, ⟨-, htheme, rfl⟩, ⟨s, skipped⟩, hs, -, hslots, made,
      hmade, -, hrules, rfl⟩ := h
    refine ⟨process_eq_ok_iff.2 ⟨t, d, s, skipped, made, ht, hd, hs, hmade, rfl⟩, ?_⟩
    intro t' d' ht' hd'
    obtain rfl : t = t' := Except.ok.inj (ht.symm.trans ht')
    obtain rfl : d = d' := Except.ok.inj (hd.symm.trans hd')
    exact (hprints t d made).2 ⟨hopening, htheme, hslots, hrules⟩
  · rintro ⟨hprocess, htold⟩
    obtain ⟨t, d, s, skipped, made, ht, hd, hs, hmade, rfl⟩ := process_eq_ok_iff.1 hprocess
    obtain ⟨hopening, htheme, hslots, hrules⟩ := (hprints t d made).1 (htold t d ht hd)
    simp only [run, runAccepted, runRead, normalize, bind_eq_ok_iff, mapError_eq_ok_iff,
      tell_eq_ok_iff, pure, Except.pure, Except.ok.injEq]
    exact ⟨t, ht, (), hopening, d, hd, _, ⟨(), htheme, rfl⟩, (s, skipped), hs, (), hslots, made,
      hmade, (), hrules, rfl⟩

/-- The files of a project are made one for one from the sources, and with some of the sources, in
any order, the same files are made of them. -/
theorem process_file_by_file (h : p.process template data generatedAt = .ok project) :
    ∃ t d s skipped, acceptTemplate template = .ok t ∧ readUserData t.key data = .ok d
      ∧ p.setting t (p.normalized d).1 = .ok (s, skipped)
      ∧ ∃ file : SourceFile → ProcessedFile,
        project.files = t.initialVersion.sourceFiles.map file
        ∧ (∀ f ∈ t.initialVersion.sourceFiles, p.MadeFrom s f (file f))
        ∧ project.info.placeholderCount = placeholdersIn t.initialVersion.sourceFiles
        ∧ project.manifest.fileCount = t.initialVersion.sourceFiles.length
        ∧ ∀ fs other generatedAt, fs ≠ [] → fs ⊆ t.initialVersion.sourceFiles →
          readTemplate other = .ok (t.withSources fs) →
          ∃ project', p.process other data generatedAt = .ok project'
            ∧ project'.files = fs.map file := by
  obtain ⟨t, d, s, skipped, made, ht, hd, hs, hmade, rfl⟩ := process_eq_ok_iff.1 h
  obtain ⟨made, rfl, hfiles⟩ := exists_eq_map_of_mapM_eq_ok hmade
  have hspec : ∀ f ∈ t.initialVersion.sourceFiles,
      p.MadeFrom s f (made f).1 ∧ (made f).2 = placeholdersIn [f] :=
    fun f hf => madeFrom_of_processFile (hfiles f hf)
  refine ⟨t, d, s, skipped, ht, hd, hs, fun f => (made f).1, ?_, fun f hf => (hspec f hf).1,
    ?_, ?_, ?_⟩
  · simp [assemble]
  · exact placeholderTotal_map fun f hf => (hspec f hf).2
  · simp [assemble]
  · intro fs other generatedAt hfs hsub hother
    have haccept : acceptTemplate other = .ok (t.withSources fs) :=
      acceptTemplate_eq_ok_iff.2 ⟨hother, (acceptTemplate_eq_ok_iff.1 ht).2.1, hfs⟩
    have hsome : (t.withSources fs).initialVersion.sourceFiles.mapM (p.processFile s)
        = .ok (fs.map made) := mapM_eq_ok_map fun f hf => hfiles f (hsub hf)
    -- The setting of a run does not look at the sources: it is that of the whole template.
    refine ⟨_, process_eq_ok_iff.2 ⟨_, d, s, skipped, _, haccept, hd, hs, hsome, rfl⟩, ?_⟩
    simp [assemble]

/-- A template with a page and a picture. -/
def twoFiles : Template where
  key := "shop"
  initialVersion :=
    { sourceFiles :=
        [{ path := "index.html", content := "<h1><text/></h1>" },
          { path := "logo.png", type := .asset, encoding := .base64, content := "aGk=" }] }

/-- With its sources the other way round, a template makes its files the other way round. -/
theorem process_file_by_file_reversed :
    ∃ project reversed,
      process {} (.record twoFiles) (.raw .null) "now" = .ok project
      ∧ project.files.map (·.path) = ["index.html", "logo.png"]
      ∧ process {} (.record (twoFiles.withSources twoFiles.initialVersion.sourceFiles.reverse))
        (.raw .null) "now" = .ok reversed
      ∧ reversed.files = project.files.reverse := by
  have hrun : ∃ project, process {} (.record twoFiles) (.raw .null) "now" = .ok project :=
    exists_eq_ok_of_isOk (by decide +kernel)
  obtain ⟨project, hproject⟩ := hrun
  obtain ⟨t, d, s, skipped, ht, -, -, file, hfiles, hmade, -, -, hsome⟩ :=
    process_file_by_file hproject
  obtain rfl : twoFiles = t := Except.ok.inj ht
  obtain ⟨reversed, hreversed, hreversedFiles⟩ :=
    hsome twoFiles.initialVersion.sourceFiles.reverse
      (.record (twoFiles.withSources twoFiles.initialVersion.sourceFiles.reverse)) "now"
      (by decide) (by simp) rfl
  refine ⟨project, reversed, hproject, ?_, hreversed, ?_⟩
  · rw [hfiles, List.map_map]
    exact List.map_congr_left fun f hf => (hmade f hf).path
  · rw [hreversedFiles, hfiles, List.map_reverse]

end Processor

end SiteTemplate
