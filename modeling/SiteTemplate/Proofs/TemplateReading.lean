import SiteTemplate.Proofs.RecordReading
import SiteTemplate.Template.Basic

/-!
# Templates that can be read

What the fields of a template are when they have been read from an object, and what is known of any
template that has been read: it and all the fields that its slots declare, to any depth, have a
key, its source files have paths, and its version is numbered from one on and is not archived.
-/

namespace SiteTemplate

open Record

variable {o : Members}

theorem Validator.read_obj_eq_ok_iff {v : Validator} : read (.obj o) = Reading.ok v ↔
    required o (.single "kind") (Read.choice ValidatorKind.all (·.name)) = Reading.ok v.kind
    ∧ optional o (.single "value") .null Read.any = Reading.ok v.limit := by
  cases v
  simp only [read, Record.read, Reading.seq_eq_ok_iff, Reading.pure_eq_ok_iff,
    exists_and_left, exists_eq_left', ↓existsAndEq, and_true, mk.injEq]

theorem FieldDecl.readWithin_obj_eq_ok_iff {depth : Nat} {f : FieldDecl} :
    readWithin (depth + 1) (.obj o) = Reading.ok f ↔
      Record.required o (.single "key") Read.nonEmptyText = Reading.ok f.key
      ∧ optional o (.single "type") .text (Read.choice FieldType.all (·.name)) = Reading.ok f.type
      ∧ optional o (.single "required") false Read.bool = Reading.ok f.required
      ∧ optional o (.single "default") .null Read.any = Reading.ok f.default
      ∧ optional o (.single "validators") [] (Read.list Validator.read) = Reading.ok f.validators
      ∧ optional o (.single "shape") none (Read.nullable (Read.entries (readWithin depth)))
          = Reading.ok f.shape
      ∧ optional o ⟨"item_shape", "itemShape"⟩ none (Read.nullable (readWithin depth))
          = Reading.ok f.itemShape := by
  cases f
  simp only [readWithin, Record.read, Reading.seq_eq_ok_iff, Reading.pure_eq_ok_iff, and_assoc,
    exists_and_left, exists_eq_left', ↓existsAndEq, and_true, mk.injEq]

theorem SlotDecl.read_obj_eq_ok_iff {d : SlotDecl} : read (.obj o) = Reading.ok d ↔
    optional o (.single "type") .object (Read.choice SlotType.all (·.name)) = Reading.ok d.type
    ∧ optional o (.single "component") none (Read.nullable Read.text) = Reading.ok d.component
    ∧ optional o (.single "fields") [] (Read.list FieldDecl.read) = Reading.ok d.fields := by
  cases d
  simp only [read, Record.read, Reading.seq_eq_ok_iff, Reading.pure_eq_ok_iff, and_assoc,
    exists_and_left, exists_eq_left', ↓existsAndEq, and_true, mk.injEq]

theorem Constraints.read_obj_eq_ok_iff {c : Constraints} : read (.obj o) = Reading.ok c ↔
    optional o ⟨"a11y", "a11Y"⟩ none (Read.nullable AccessibilityConstraints.read)
        = Reading.ok c.a11y
    ∧ optional o (.single "content") none (Read.nullable ContentConstraints.read)
        = Reading.ok c.content
    ∧ optional o (.single "assets") none (Read.nullable (Read.entries AssetConstraint.read))
        = Reading.ok c.assets
    ∧ optional o (.single "performance") none (Read.nullable PerformanceConstraints.read)
        = Reading.ok c.performance
    ∧ optional o (.single "security") none (Read.nullable SecurityConstraints.read)
        = Reading.ok c.security
    ∧ optional o (.single "code") none (Read.nullable CodeConstraints.read)
        = Reading.ok c.code := by
  cases c
  simp only [read, Record.read, Reading.seq_eq_ok_iff, Reading.pure_eq_ok_iff, and_assoc,
    exists_and_left, exists_eq_left', ↓existsAndEq, and_true, mk.injEq]

theorem SourceFile.read_obj_eq_ok_iff {f : SourceFile} : read (.obj o) = Reading.ok f ↔
    required o (.single "path") Read.nonEmptyText = Reading.ok f.path
    ∧ optional o (.single "type") .code (Read.choice SourceType.all (·.name)) = Reading.ok f.type
    ∧ optional o (.single "encoding") .utf8 (Read.choice [.utf8, .base64] SourceEncoding.name)
        = Reading.ok f.encoding
    ∧ optional o (.single "content") "" Read.text = Reading.ok f.content := by
  cases f
  simp only [read, Record.read, Reading.seq_eq_ok_iff, Reading.pure_eq_ok_iff, and_assoc,
    exists_and_left, exists_eq_left', ↓existsAndEq, and_true, mk.injEq]

theorem TemplateVersion.read_obj_eq_ok_iff {v : TemplateVersion} : read (.obj o) = Reading.ok v ↔
    optional o (.single "version") 1 (Read.intAtLeast 1) = Reading.ok v.version
    ∧ optional o (.single "semver") "1.0.0" Read.text = Reading.ok v.semver
    ∧ optional o (.single "status") .draft (Read.choice [.published, .draft] Status.name)
        = Reading.ok v.status
    ∧ optional o ⟨"source_files", "sourceFiles"⟩ [] (Read.list SourceFile.read)
        = Reading.ok v.sourceFiles
    ∧ optional o (.single "slots") [] (Read.entries SlotDecl.read) = Reading.ok v.slots
    ∧ optional o (.single "constraints") {} Constraints.read = Reading.ok v.constraints := by
  cases v
  simp only [read, Record.read, Reading.seq_eq_ok_iff, Reading.pure_eq_ok_iff, and_assoc,
    exists_and_left, exists_eq_left', ↓existsAndEq, and_true, mk.injEq]

theorem Template.read_obj_eq_ok_iff {t : Template} : read (.obj o) = Reading.ok t ↔
    required o (.single "key") Read.nonEmptyText = Reading.ok t.key
    ∧ optional o (.single "label") "" Read.text = Reading.ok t.label
    ∧ optional o (.single "category") "" Read.text = Reading.ok t.category
    ∧ optional o (.single "meta") {} TemplateMeta.read = Reading.ok t.info
    ∧ optional o (.single "tags") [] (Read.list Read.text) = Reading.ok t.tags
    ∧ required o ⟨"initial_version", "initialVersion"⟩ TemplateVersion.read
        = Reading.ok t.initialVersion := by
  cases t
  simp only [read, Record.read, Reading.seq_eq_ok_iff, Reading.pure_eq_ok_iff, and_assoc,
    exists_and_left, exists_eq_left', ↓existsAndEq, and_true, mk.injEq]

namespace FieldDecl

/-- A property holds of a declaration and of all declarations in it. -/
inductive All (P : FieldDecl → Prop) : FieldDecl → Prop
  | intro {f : FieldDecl} (self : P f)
    (shape : ∀ fs, f.shape = some fs → ∀ e ∈ fs, All P e.2)
    (itemShape : ∀ g, f.itemShape = some g → All P g) : All P f

variable {P Q : FieldDecl → Prop} {f : FieldDecl}

theorem all_iff : f.All P ↔
    P f ∧ (∀ fs, f.shape = some fs → ∀ e ∈ fs, All P e.2) ∧
      ∀ g, f.itemShape = some g → g.All P :=
  ⟨fun ⟨hself, hshape, hitem⟩ => ⟨hself, hshape, hitem⟩,
    fun ⟨hself, hshape, hitem⟩ => ⟨hself, hshape, hitem⟩⟩

theorem All.imp (h : f.All P) (hPQ : ∀ g, P g → Q g) : f.All Q := by
  induction h with
  | intro hself _ _ hshape hitem => exact ⟨hPQ _ hself, hshape, hitem⟩

theorem All.and (hP : f.All P) (hQ : f.All Q) : f.All fun g => P g ∧ Q g := by
  induction hP with
  | intro hself _ _ hshape hitem =>
    obtain ⟨hself', hshape', hitem'⟩ := all_iff.1 hQ
    exact ⟨⟨hself, hself'⟩, fun fs hfs e he => hshape fs hfs e he (hshape' fs hfs e he),
      fun g hg => hitem g hg (hitem' g hg)⟩

theorem all_and_iff : (f.All fun g => P g ∧ Q g) ↔ f.All P ∧ f.All Q :=
  ⟨fun h => ⟨h.imp fun _ => And.left, h.imp fun _ => And.right⟩, fun ⟨hP, hQ⟩ => hP.and hQ⟩

def HasKey (f : FieldDecl) : Prop := f.key ≠ ""

private theorem all_hasKey_of_readWithin {depth : Nat} {v : Json}
    (h : readWithin depth v = Reading.ok f) :
    f.All HasKey := by
  induction depth generalizing v f with
  | zero => cases h
  | succ depth ih =>
    obtain ⟨o, rfl, -⟩ := read_eq_ok_iff.1 h
    obtain ⟨hkey, -, -, -, -, hshape, hitem⟩ := readWithin_obj_eq_ok_iff.1 h
    obtain ⟨e, -, he⟩ := required_eq_ok_iff.1 hkey
    refine ⟨(Read.nonEmptyText_eq_ok_iff.1 he).2, ?_, ?_⟩
    · exact of_optional hshape nofun fun v fs? hv => Read.forall_of_nullable hv fun v fs hfs =>
        Read.forall_mem_of_entries hfs fun _ _ hg => ih hg
    · exact of_optional hitem nofun fun v g? hv => Read.forall_of_nullable hv fun _ _ hg => ih hg

end FieldDecl

def SourceFile.HasPath (f : SourceFile) : Prop := f.path ≠ ""

/-- All fields that a slot declares have a key. -/
def SlotDecl.HasKeys (d : SlotDecl) : Prop := ∀ f ∈ d.fields, f.All FieldDecl.HasKey

/-- What is known of any version that has been read. -/
structure TemplateVersion.IsProper (v : TemplateVersion) : Prop where
  version : 1 ≤ v.version
  status : v.status ≠ .archived
  sourceFiles : ∀ f ∈ v.sourceFiles, f.HasPath
  slots : ∀ e ∈ v.slots, e.2.HasKeys

/-- What is known of any template that has been read. -/
structure Template.IsProper (t : Template) : Prop where
  key : t.key ≠ ""
  initialVersion : t.initialVersion.IsProper

private theorem SourceFile.hasPath_of_read {v : Json} {f : SourceFile} (h : read v = Reading.ok f) :
    f.HasPath := by
  obtain ⟨o, rfl, -⟩ := read_eq_ok_iff.1 h
  obtain ⟨e, -, he⟩ := required_eq_ok_iff.1 (read_obj_eq_ok_iff.1 h).1
  exact (Read.nonEmptyText_eq_ok_iff.1 he).2

private theorem SlotDecl.hasKeys_of_read {v : Json} {d : SlotDecl} (h : read v = Reading.ok d) :
    d.HasKeys := by
  obtain ⟨o, rfl, -⟩ := read_eq_ok_iff.1 h
  obtain ⟨-, -, hfields⟩ := read_obj_eq_ok_iff.1 h
  refine of_optional (P := fun fs => ∀ f ∈ fs, f.All FieldDecl.HasKey) hfields nofun
    fun _ _ hfs => ?_
  exact Read.forall_mem_of_list hfs fun _ _ hf => FieldDecl.all_hasKey_of_readWithin hf

theorem TemplateVersion.isProper_of_read {v : Json} {t : TemplateVersion}
    (h : read v = Reading.ok t) : t.IsProper := by
  obtain ⟨o, rfl, -⟩ := read_eq_ok_iff.1 h
  obtain ⟨hversion, -, hstatus, hsources, hslots, -⟩ := read_obj_eq_ok_iff.1 h
  refine ⟨?_, ?_, ?_, ?_⟩
  · exact of_optional hversion (Int.le_refl 1) fun _ _ => Read.le_of_intAtLeast
  · refine of_optional (P := (· ≠ .archived)) hstatus nofun fun _ _ hs => ?_
    have hmem := Read.mem_of_choice hs
    rintro rfl
    simp at hmem
  · exact of_optional hsources nofun fun _ _ hfs =>
      Read.forall_mem_of_list hfs fun _ _ => SourceFile.hasPath_of_read
  · exact of_optional hslots nofun fun _ _ hds =>
      Read.forall_mem_of_entries hds fun _ _ => SlotDecl.hasKeys_of_read

theorem Template.isProper_of_read {v : Json} {t : Template} (h : read v = Reading.ok t) :
    t.IsProper := by
  obtain ⟨o, rfl, -⟩ := read_eq_ok_iff.1 h
  obtain ⟨hkey, -, -, -, -, hversion⟩ := read_obj_eq_ok_iff.1 h
  obtain ⟨e, -, he⟩ := required_eq_ok_iff.1 hkey
  obtain ⟨e', -, he'⟩ := required_eq_ok_iff.1 hversion
  exact ⟨(Read.nonEmptyText_eq_ok_iff.1 he).2, TemplateVersion.isProper_of_read he'⟩

end SiteTemplate
