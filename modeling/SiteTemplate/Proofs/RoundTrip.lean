import SiteTemplate.Proofs.WrittenRecords
import SiteTemplate.UserData

/-!
# Templates and data that are written and read back

A template and the caller's data hold free values: the limits of validators, the defaults of fields
and the objects of the data. A written record holds them as they are, but for numbers that are not
finite, in whose place stands null. What has been read is therefore read back from what was written
of it, in either spelling, exactly if all numbers in its free values are finite.
-/

namespace SiteTemplate

open Record

variable {s : Spelling}

namespace Json

mutual

/-- Whether all numbers in a value are finite. -/
def allFinite : Json → Bool
  | .float x => x.isFinite
  | .arr items => allFiniteItems items
  | .obj members => allFiniteMembers members
  | _ => true

/-- Whether all numbers in the items of a list are finite. -/
def allFiniteItems : List Json → Bool
  | [] => true
  | v :: vs => allFinite v && allFiniteItems vs

/-- Whether all numbers in the members of an object are finite. -/
def allFiniteMembers : List (String × Json) → Bool
  | [] => true
  | (_, v) :: ms => allFinite v && allFiniteMembers ms

end

mutual

theorem encoded_eq_self_iff : ∀ v : Json, v.encoded = v ↔ v.allFinite = true
  | .null | .bool _ | .int _ | .str _ => iff_of_true rfl rfl
  | .float x => by
    rw [encoded, allFinite]
    cases x.isFinite <;> simp
  | .arr items => by
    rw [encoded, allFinite, Json.arr.injEq]
    exact encodedItems_eq_self_iff items
  | .obj members => by
    rw [encoded, allFinite, Json.obj.injEq]
    exact encodedMembers_eq_self_iff members

theorem encodedItems_eq_self_iff : ∀ vs : List Json,
    encodedItems vs = vs ↔ allFiniteItems vs = true
  | [] => iff_of_true rfl rfl
  | v :: vs => by
    rw [encodedItems, allFiniteItems, List.cons.injEq, Bool.and_eq_true, encoded_eq_self_iff v,
      encodedItems_eq_self_iff vs]

theorem encodedMembers_eq_self_iff : ∀ ms : List (String × Json),
    encodedMembers ms = ms ↔ allFiniteMembers ms = true
  | [] => iff_of_true rfl rfl
  | (key, v) :: ms => by
    rw [encodedMembers, allFiniteMembers, List.cons.injEq, Bool.and_eq_true, Prod.mk.injEq,
      encoded_eq_self_iff v, encodedMembers_eq_self_iff ms, eq_self, true_and]

end

theorem depth_le_of_mem {ms : List (String × Json)} {key : String} {v : Json}
    (h : (key, v) ∈ ms) : v.depth ≤ depthOfMembers ms := by
  induction ms with
  | nil => cases h
  | cons m ms ih =>
    rw [depthOfMembers]
    rcases List.mem_cons.1 h with rfl | h
    · exact Nat.le_max_left _ _
    · exact Nat.le_trans (ih h) (Nat.le_max_right _ _)

end Json

theorem Record.depth_le_of_find? {o : Members} {k : Key} {e : String × Json}
    (h : find? o k = some e) : e.2.depth ≤ Json.depthOfMembers o := by
  obtain ⟨key, hmem⟩ := exists_mem_of_find? h
  exact Json.depth_le_of_mem hmem

private theorem Read.members_encoded_eq_ok_iff {ms : Members} :
    Read.members (Json.obj ms).encoded = Reading.ok ms ↔ (Json.obj ms).allFinite = true := by
  rw [members_eq_ok_iff, Json.encoded_eq_self_iff]

theorem Read.any_encoded_eq_ok_iff {v : Json} :
    Read.any v.encoded = Reading.ok v ↔ v.allFinite = true := by
  rw [any, Reading.ok_eq_ok_iff, Json.encoded_eq_self_iff]

def Validator.IsFinite (v : Validator) : Prop := v.limit.allFinite = true

theorem Validator.read_toJson_eq_ok_iff {v : Validator} :
    read (v.toJson s) = Reading.ok v ↔ v.IsFinite := by
  obtain ⟨o, ho, hfind⟩ := exists_of_eq_write (rfl : v.toJson s = _)
    (by simp [Key.IsApart, Key.single])
  simp only [List.forall_mem_cons] at hfind
  have hkind : Read.choice ValidatorKind.all (·.name) (.str v.kind.name) = Reading.ok v.kind := by
    cases v.kind <;> rfl
  simp [ho, read_obj_eq_ok_iff, Record.required, Record.optional, hfind, hkind,
    Read.any_encoded_eq_ok_iff, IsFinite]

namespace FieldDecl

/-- All numbers in the default and in the limits of the validators are finite. -/
def IsFinite (f : FieldDecl) : Prop :=
  f.default.allFinite = true ∧ ∀ v ∈ f.validators, v.IsFinite

theorem toJson_eq (f : FieldDecl) : f.toJson s = Record.write s
    [(.single "key", .str f.key), (.single "type", .str f.type.name),
      (.single "required", .bool f.required), (.single "default", f.default.encoded),
      (.single "validators", .arr (f.validators.map (·.toJson s))),
      (.single "shape", shapeToJson s f.shape),
      (⟨"item_shape", "itemShape"⟩, itemShapeToJson s f.itemShape)] := by
  cases f
  rw [toJson]

theorem fieldsToJson_eq (fs : List (String × FieldDecl)) :
    fieldsToJson s fs = Entries.mapValues (·.toJson s) fs := by
  induction fs with
  | nil => rfl
  | cons e fs ih => rw [fieldsToJson, ih]; rfl

private theorem nullable_shapeToJson_eq_ok_iff {read : Json → Reading FieldDecl}
    {shape : Option (List (String × FieldDecl))} :
    Read.nullable (Read.entries read) (shapeToJson s shape) = Reading.ok shape ↔
      ∀ fs, shape = some fs → ∀ e ∈ fs, read (e.2.toJson s) = Reading.ok e.2 := by
  cases shape with
  | none => exact iff_of_true rfl nofun
  | some fs =>
    rw [shapeToJson, fieldsToJson_eq, Read.nullable_eq_ok_some_iff,
      Read.entries_mapValues_eq_ok_iff]
    simp

private theorem nullable_itemShapeToJson_eq_ok_iff {read : Json → Reading FieldDecl}
    {item : Option FieldDecl} :
    Read.nullable read (itemShapeToJson s item) = Reading.ok item ↔
      ∀ f, item = some f → read (f.toJson s) = Reading.ok f := by
  cases item with
  | none => exact iff_of_true rfl nofun
  | some f =>
    have hne : f.toJson s ≠ .null := by rw [toJson_eq]; nofun
    rw [itemShapeToJson, Read.nullable_eq_ok_some_iff]
    simp [hne]

private theorem depth_shape_lt {fs : List (String × FieldDecl)} {e : String × FieldDecl}
    (he : e ∈ fs) :
    (e.2.toJson s).depth < (shapeToJson s (some fs)).depth := by
  have hmem : (e.1, e.2.toJson s) ∈ fieldsToJson s fs := by
    rw [fieldsToJson_eq]
    exact List.mem_map.2 ⟨e, he, rfl⟩
  rw [shapeToJson, Json.depth]
  exact Nat.lt_succ_of_le (Json.depth_le_of_mem hmem)

/-- A declaration comes back exactly if it and all declarations in it have a key and all numbers in
them are finite. -/
theorem readWithin_toJson_eq_ok_iff {depth : Nat} {f : FieldDecl}
    (hdepth : (f.toJson s).depth ≤ depth) :
    readWithin depth (f.toJson s) = Reading.ok f ↔ f.All fun g => g.HasKey ∧ g.IsFinite := by
  induction depth generalizing f with
  | zero =>
    rw [toJson_eq, Record.write, Json.depth] at hdepth
    exact absurd hdepth (Nat.not_succ_le_zero _)
  | succ depth ih =>
    obtain ⟨o, ho, hfind⟩ := exists_of_eq_write (f.toJson_eq (s := s))
      (by simp [Key.IsApart, Key.single])
    simp only [List.forall_mem_cons] at hfind
    obtain ⟨hkey, htype, hrequired, hdefault, hvalidators, hshape, hitem, -⟩ := hfind
    rw [ho, Json.depth, Nat.add_le_add_iff_right] at hdepth
    have hchoice : Read.choice FieldType.all (·.name) (.str f.type.name) = Reading.ok f.type := by
      cases f.type <;> rfl
    have hnestedShape : (∀ fs, f.shape = some fs → ∀ e ∈ fs,
          readWithin depth (e.2.toJson s) = Reading.ok e.2) ↔
        ∀ fs, f.shape = some fs → ∀ e ∈ fs, e.2.All fun g => g.HasKey ∧ g.IsFinite := by
      refine forall₂_congr fun fs hfs => forall₂_congr fun e he => ih ?_
      have hle := depth_le_of_find? hshape
      rw [hfs] at hle
      exact Nat.le_of_lt (Nat.lt_of_lt_of_le (depth_shape_lt he) (Nat.le_trans hle hdepth))
    have hnestedItem : (∀ g, f.itemShape = some g →
          readWithin depth (g.toJson s) = Reading.ok g) ↔
        ∀ g, f.itemShape = some g → g.All fun g => g.HasKey ∧ g.IsFinite := by
      refine forall₂_congr fun g hg => ih ?_
      have hle := depth_le_of_find? hitem
      rw [hg, itemShapeToJson] at hle
      exact Nat.le_trans hle hdepth
    rw [all_iff, ← hnestedShape, ← hnestedItem, ho, readWithin_obj_eq_ok_iff]
    simp [Record.required, Record.optional, hkey, htype, hrequired, hdefault, hvalidators, hshape,
      hitem, hchoice, Read.nonEmptyText_eq_ok_iff, Read.any_encoded_eq_ok_iff,
      Read.list_map_eq_ok_iff, Validator.read_toJson_eq_ok_iff, nullable_shapeToJson_eq_ok_iff,
      nullable_itemShapeToJson_eq_ok_iff, HasKey, IsFinite, and_assoc]

theorem read_toJson_eq_ok_iff {f : FieldDecl} :
    read (f.toJson s) = Reading.ok f ↔ (f.All HasKey ∧ f.All IsFinite) := by
  rw [← all_and_iff]
  exact readWithin_toJson_eq_ok_iff (Nat.le_refl _)

end FieldDecl

/-- All numbers in the declarations of a slot are finite. -/
def SlotDecl.IsFinite (d : SlotDecl) : Prop := ∀ f ∈ d.fields, f.All FieldDecl.IsFinite

theorem SlotDecl.read_toJson_eq_ok_iff {d : SlotDecl} :
    read (d.toJson s) = Reading.ok d ↔ d.HasKeys ∧ d.IsFinite := by
  obtain ⟨o, ho, hfind⟩ := exists_of_eq_write (rfl : d.toJson s = _)
    (by simp [Key.IsApart, Key.single])
  simp only [List.forall_mem_cons] at hfind
  have htype : Read.choice SlotType.all (·.name) (.str d.type.name) = Reading.ok d.type := by
    cases d.type <;> rfl
  simp [ho, read_obj_eq_ok_iff, Record.optional, hfind, htype, Read.list_map_eq_ok_iff,
    FieldDecl.read_toJson_eq_ok_iff, HasKeys, IsFinite, forall_and]

/-- All numbers in the declarations of a version are finite. -/
def TemplateVersion.IsFinite (v : TemplateVersion) : Prop := ∀ e ∈ v.slots, e.2.IsFinite

theorem TemplateVersion.read_toJson_eq_ok_iff {v : TemplateVersion} :
    read (v.toJson s) = Reading.ok v ↔ v.IsProper ∧ v.IsFinite := by
  obtain ⟨o, ho, hfind⟩ := exists_of_eq_write (rfl : v.toJson s = _)
    (by simp [Key.IsApart, Key.single])
  simp only [List.forall_mem_cons] at hfind
  have hstatus : Read.choice [.published, .draft] Status.name (.str v.status.name)
      = Reading.ok v.status ↔ v.status ≠ .archived := by
    cases v.status <;> simp [Read.choice, Status.name]
  have hfields : read (v.toJson s) = Reading.ok v ↔ 1 ≤ v.version ∧ v.status ≠ .archived ∧
      (∀ f ∈ v.sourceFiles, f.HasPath) ∧ ∀ e ∈ v.slots, e.2.HasKeys ∧ e.2.IsFinite := by
    simp [ho, read_obj_eq_ok_iff, Record.optional, hfind, hstatus, Read.intAtLeast_int_eq_ok_iff,
      Read.list_map_eq_ok_iff, SourceFile.read_toJson_eq_ok_iff, SourceFile.HasPath,
      Read.entries_mapValues_eq_ok_iff, SlotDecl.read_toJson_eq_ok_iff, Constraints.read_toJson]
  rw [hfields]
  constructor
  · rintro ⟨hversion, hstatus, hsources, hslots⟩
    exact ⟨⟨hversion, hstatus, hsources, fun e he => (hslots e he).1⟩,
      fun e he => (hslots e he).2⟩
  · rintro ⟨⟨hversion, hstatus, hsources, hkeys⟩, hfinite⟩
    exact ⟨hversion, hstatus, hsources, fun e he => ⟨hkeys e he, hfinite e he⟩⟩

/-- All numbers in the free values of a template are finite: in the defaults of the fields that its
slots declare, and in the limits of their validators. -/
def Template.IsFinite (t : Template) : Prop := t.initialVersion.IsFinite

theorem Template.read_toJson_eq_ok_iff {t : Template} :
    read (t.toJson s) = Reading.ok t ↔ t.IsProper ∧ t.IsFinite := by
  obtain ⟨o, ho, hfind⟩ := exists_of_eq_write (rfl : t.toJson s = _)
    (by simp [Key.IsApart, Key.single])
  simp only [List.forall_mem_cons] at hfind
  have hfields : read (t.toJson s) = Reading.ok t ↔
      t.key ≠ "" ∧ t.initialVersion.IsProper ∧ t.initialVersion.IsFinite := by
    simp [ho, read_obj_eq_ok_iff, Record.required, Record.optional, hfind,
      Read.nonEmptyText_eq_ok_iff, TemplateMeta.read_toJson, TemplateVersion.read_toJson_eq_ok_iff]
  rw [hfields]
  constructor
  · rintro ⟨hkey, hproper, hfinite⟩
    exact ⟨⟨hkey, hproper⟩, hfinite⟩
  · rintro ⟨⟨hkey, hproper⟩, hfinite⟩
    exact ⟨hkey, hproper, hfinite⟩

/-- All numbers in the objects of the data are finite. -/
def UserData.IsFinite (d : UserData) : Prop :=
  ∀ ms ∈ [d.content, d.images, d.slots, d.customizations, d.dynamicData, d.aiContent],
    (Json.obj ms).allFinite = true

theorem UserData.read_toJson_eq_ok_iff {d : UserData} :
    read (d.toJson s) = Reading.ok d ↔ d.IsFinite := by
  obtain ⟨o, ho, hfind⟩ := exists_of_eq_write (rfl : d.toJson s = _)
    (by simp [Key.IsApart, Key.single])
  simp only [List.forall_mem_cons] at hfind
  simp [ho, read_obj_eq_ok_iff, Record.optional, hfind, Read.members_encoded_eq_ok_iff, IsFinite]

/-- Templates and data that have been read come back from what is written of them, in either
spelling, exactly if all numbers in their free values are finite. -/
theorem Spelling.read_back_iff (s : Spelling) :
    (∀ j t, Template.read j = Reading.ok t →
      (Template.read (t.toJson s) = Reading.ok t ↔ t.IsFinite)) ∧
    ∀ j d, UserData.read j = Reading.ok d →
      (UserData.read (d.toJson s) = Reading.ok d ↔ d.IsFinite) := by
  refine ⟨fun j t h => ?_, fun _ _ _ => UserData.read_toJson_eq_ok_iff⟩
  rw [Template.read_toJson_eq_ok_iff]
  exact and_iff_right (Template.isProper_of_read h)

/-- A list of captions of at most sixty characters. -/
def captionsField : FieldDecl :=
  { key := "captions", type := .list
    itemShape := some { key := "caption", validators := [⟨.maxLength, .int 60⟩] } }

/-- An object that holds the captions. -/
def heroField : FieldDecl :=
  { key := "hero", type := .object, default := .float .zero
    shape := some [("captions", captionsField)] }

/-- A shop that declares the object on its home page, gives one block of its constraints and leaves
one of them null. -/
def heroShop : Json :=
  .obj [("key", "shop"),
    ("initialVersion", .obj [
      ("slots", .obj [("home", .obj [("fields", .arr [
        .obj [("key", "hero"), ("type", "object"), ("default", .float .zero),
          ("shape", .obj [("captions", .obj [("key", "captions"), ("type", "list"),
            ("item_shape", .obj [("key", "caption"), ("validators", .arr [
              .obj [("kind", "maxLength"), ("value", .int 60)]])])])])]])])]),
      ("constraints", .obj [("a11y", .null), ("code", .obj [("tsc", .bool true)])])])]

/-- Data with a word of the content model. -/
def wordData : Json := .obj [("ai_content", .obj [("title", "Warm")]), ("useAI", .bool false)]

theorem read_back_heroShop_wordData :
    (∃ t, Template.read heroShop = Reading.ok t ∧ t.IsFinite ∧
      ∀ s : Spelling, Template.read (t.toJson s) = Reading.ok t) ∧
    ∃ d, UserData.read wordData = Reading.ok d ∧ d.IsFinite ∧
      ∀ s : Spelling, UserData.read (d.toJson s) = Reading.ok d := by
  have htemplate : Template.read heroShop = Reading.ok ⟨"shop", "", "", {}, [],
      { slots := [("home", { fields := [heroField] })]
        constraints := { code := some { tsc := true } } }⟩ := rfl
  have hcaptions : captionsField.All FieldDecl.IsFinite := by
    refine ⟨⟨rfl, nofun⟩, nofun, ?_⟩
    rintro _ ⟨⟩
    refine ⟨⟨rfl, ?_⟩, nofun, nofun⟩
    rintro _ (_ | ⟨_, ⟨⟩⟩)
    rfl
  have hhero : heroField.All FieldDecl.IsFinite := by
    refine ⟨⟨by decide, nofun⟩, ?_, nofun⟩
    rintro _ ⟨⟩ _ (_ | ⟨_, ⟨⟩⟩)
    exact hcaptions
  have hdata : UserData.read wordData = Reading.ok
      { aiContent := [("title", "Warm")], useAI := false } := rfl
  constructor
  · refine ⟨_, htemplate, ?_, fun s => ((Spelling.read_back_iff s).1 _ _ htemplate).2 ?_⟩ <;>
      rintro _ (_ | ⟨_, ⟨⟩⟩) _ (_ | ⟨_, ⟨⟩⟩) <;> exact hhero
  · refine ⟨_, hdata, ?_, fun s => ((Spelling.read_back_iff s).2 _ _ hdata).2 ?_⟩ <;>
      simp [UserData.IsFinite, Json.allFinite, Json.allFiniteMembers]

/-- Data with an infinite number in their content. -/
def endlessData : UserData := { content := [("x", .float (.infinity false))] }

/-- Data with an infinite number do not come back: null stands in its place. -/
theorem not_read_back_endlessData :
    UserData.read (.obj [("content", .obj [("x", .float (.infinity false))])])
        = Reading.ok endlessData ∧
      (Binary64.infinity false).isNaN = false ∧
      UserData.read (endlessData.toJson .wire) = Reading.ok { content := [("x", .null)] } ∧
      UserData.read (endlessData.toJson .wire) ≠ Reading.ok endlessData := by
  refine ⟨rfl, by decide, rfl, fun h => ?_⟩
  have hfinite := UserData.read_toJson_eq_ok_iff.1 h
  exact absurd (hfinite endlessData.content List.mem_cons_self) (by decide)

end SiteTemplate
