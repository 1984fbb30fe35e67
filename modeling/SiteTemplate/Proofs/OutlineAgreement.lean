import SiteTemplate.Project.Failure
import SiteTemplate.Proofs.TemplateReading

/-!
# One outline for a template and its object

The outline of an object tells of two members the first that does not count as absent, and takes
constraints for declared when anything stands in them. A reading takes the member under the name on
the wire, whether it counts or not, and knows the constraints by their blocks. The two outlines
agree exactly where an empty member hides no other, and where constraints that hold anything hold a
block.
-/

namespace SiteTemplate

open Record

namespace Record

/-- The value under the plain name of a field, where only the one under its name on the wire counts
as absent. -/
def hidden? (o : Members) (k : Key) : Option Json :=
  match Entries.get? o k.wire with
  | some v => if v.isTruthy then none else (Entries.get? o k.name).filter (·.isTruthy)
  | none => none

variable {o : Members} {k : Key} {v : Json}

theorem exists_find?_of_hidden? (h : hidden? o k = some v) :
    ∃ e, find? o k = some e ∧ e.2.isTruthy = false := by
  rw [hidden?] at h
  rw [find?]
  cases hwire : Entries.get? o k.wire with
  | none => simp [hwire] at h
  | some w =>
    cases hw : w.isTruthy with
    | false => exact ⟨_, rfl, hw⟩
    | true => simp [hwire, hw] at h

theorem hidden?_eq_none {e : String × Json} (h : find? o k = some e) (he : e.2.isTruthy = true) :
    hidden? o k = none := by
  refine Option.eq_none_iff_forall_not_mem.2 fun w hw => ?_
  obtain ⟨e', hfind, hfalse⟩ := exists_find?_of_hidden? hw
  obtain rfl := Option.some.inj (h.symm.trans hfind)
  exact absurd he (by simp [hfalse])

theorem present?_eq (o : Members) (k : Key) :
    Outline.present? o k.wire k.name =
      (((find? o k).map Prod.snd).filter (·.isTruthy)).or (hidden? o k) := by
  rw [Outline.present?, find?, hidden?]
  cases Entries.get? o k.wire with
  | none => simp [Option.map_map, Function.comp_def]
  | some w => cases hw : w.isTruthy <;> simp [Option.filter, hw]

end Record

namespace Constraints

variable {α : Type} {o : Members} {k : Key}

/-- The fields that hold the blocks. -/
def blockKeys : List Key :=
  [⟨"a11y", "a11Y"⟩, .single "content", .single "assets", .single "performance",
    .single "security", .single "code"]

/-- Some block stands in the constraints. -/
def HasBlock (o : Members) : Prop := ∃ k ∈ blockKeys, ∃ e, find? o k = some e ∧ e.2 ≠ .null

private theorem not_hasBlock_nil : ¬HasBlock [] := by
  rintro ⟨k, -, e, he, -⟩
  cases he

theorem isSome_iff_of_optional {read : Json → Reading α} {a : Option α}
    (h : optional o k none (Read.nullable read) = Reading.ok a) :
    a.isSome = true ↔ ∃ e, find? o k = some e ∧ e.2 ≠ .null := by
  rcases optional_eq_ok_iff.1 h with ⟨hfind, rfl⟩ | ⟨e, hfind, he⟩
  · simp [hfind]
  · cases a with
    | none => simp [hfind, Read.nullable_eq_ok_none_iff.1 he]
    | some a => simp [hfind, (Read.nullable_eq_ok_some_iff.1 he).1]

private theorem declared_iff {c : Constraints} (h : read (.obj o) = Reading.ok c) :
    c.declared = true ↔ HasBlock o := by
  obtain ⟨ha11y, hcontent, hassets, hperformance, hsecurity, hcode⟩ := read_obj_eq_ok_iff.1 h
  simp only [declared, Bool.or_eq_true, isSome_iff_of_optional ha11y,
    isSome_iff_of_optional hcontent, isSome_iff_of_optional hassets,
    isSome_iff_of_optional hperformance, isSome_iff_of_optional hsecurity,
    isSome_iff_of_optional hcode, HasBlock, blockKeys, List.mem_cons, List.not_mem_nil, or_false,
    exists_eq_or_imp, exists_eq_left, or_assoc]

end Constraints

namespace TemplateVersion

variable {o : Members} {v : TemplateVersion}

/-- The field of the source files. -/
def sourcesKey : Key := ⟨"source_files", "sourceFiles"⟩

private theorem isSome_sources_eq_iff (h : read (.obj o) = Reading.ok v) :
    (Outline.present? o "sourceFiles" "source_files").isSome = (!v.sourceFiles.isEmpty) ↔
      hidden? o sourcesKey = none := by
  have hpresent := present?_eq o sourcesKey
  rw [show Outline.present? o "sourceFiles" "source_files" = _ from hpresent]
  obtain ⟨-, -, -, hsources, -⟩ := read_obj_eq_ok_iff.1 h
  rcases optional_eq_ok_iff.1 hsources with ⟨hfind, hnil⟩ | ⟨e, hfind, he⟩
  · rw [show find? o sourcesKey = none from hfind, ← hnil]
    simp
  · rw [show find? o sourcesKey = some e from hfind]
    obtain ⟨vs, hvs, hread⟩ := Read.list_eq_ok_iff.1 he
    generalize v.sourceFiles = files at hread
    rcases hread with _ | ⟨-, -⟩
    · simp [Option.filter, hvs, Json.isTruthy]
    · -- Sources that are there are read, and then they hide nothing.
      have hnone : hidden? o sourcesKey = none :=
        hidden?_eq_none hfind (by simp [hvs, Json.isTruthy])
      simp [hnone, Option.filter, hvs, Json.isTruthy]

/-- Constraints are told of a version as they are read from it, unless they hold no block but
something else. -/
theorem any_constraints_eq_iff (h : read (.obj o) = Reading.ok v) :
    (Entries.get? o "constraints").any (·.isTruthy) = v.constraints.declared ↔
      ∀ c, Entries.get? o "constraints" = some (.obj c) → c ≠ [] → Constraints.HasBlock c := by
  obtain ⟨-, -, -, -, -, hconstraints⟩ := read_obj_eq_ok_iff.1 h
  rcases optional_eq_ok_iff.1 hconstraints with ⟨hfind, hempty⟩ | ⟨e, hfind, he⟩
  · rw [find?_single, Option.map_eq_none_iff] at hfind
    simp [hfind, ← hempty, Constraints.declared]
  · rw [find?_single] at hfind
    obtain ⟨w, hget, rfl⟩ := Option.map_eq_some_iff.1 hfind
    obtain ⟨c, rfl, -⟩ := read_eq_ok_iff.1 he
    have hdeclared := Constraints.declared_iff he
    simp only [hget, Option.any_some, Option.some.injEq, Json.obj.injEq, forall_eq', ← hdeclared]
    cases c with
    | nil =>
      have hnone : v.constraints.declared = false :=
        Bool.eq_false_iff.2 fun hc => Constraints.not_hasBlock_nil (hdeclared.1 hc)
      simp [hnone, Json.isTruthy]
    | cons m ms => simp [Json.isTruthy]

end TemplateVersion

namespace Outline

/-- Two outlines lead to the same errors, the same warnings and the same points. -/
def SameFindings (o o' : Outline) : Prop :=
  o.result.errors = o'.result.errors ∧ o.result.warnings = o'.result.warnings
    ∧ o.result.score = o'.result.score

theorem sameFindings_iff {o o' : Outline} (hkey : o.hasKey = o'.hasKey) :
    SameFindings o o' ↔ o.hasSources = o'.hasSources ∧ o.hasConstraints = o'.hasConstraints := by
  obtain ⟨key, sources, constraints⟩ := o
  obtain ⟨key', sources', constraints'⟩ := o'
  obtain rfl : key = key' := hkey
  constructor
  · rintro ⟨herrors, hwarnings, -⟩
    constructor
    · cases key <;> cases sources <;> cases sources' <;>
        first
        | rfl
        | exact absurd herrors (by simp [result, errors])
    · cases constraints <;> cases constraints' <;>
        first
        | rfl
        | exact absurd hwarnings (by simp [result, warnings])
  · rintro ⟨rfl, rfl⟩
    exact ⟨rfl, rfl, rfl⟩

/-- The outline of an object whose version has the given members. -/
def ofVersion (ms version : Members) : Outline where
  hasKey := (Entries.get? ms "key").any (·.isTruthy)
  hasSources := (present? version "sourceFiles" "source_files").isSome
  hasConstraints := (Entries.get? version "constraints").any (·.isTruthy)

private theorem ofMembers?_eq (ms : Members) :
    ofMembers? ms = (version? ms).map (ofVersion ms) := rfl

/-- The field of the version. -/
def versionKey : Key := ⟨"initial_version", "initialVersion"⟩

/-- The members of the version that is read from an object. -/
def readVersion (ms : Members) : Members :=
  ((find? ms versionKey).bind fun e => e.2.members?).getD []

/-- Nothing of an object is hidden that its outline tells, and its constraints are empty or hold a
block. -/
structure IsPlain (ms : Members) : Prop where
  /-- A version that an empty one hides has neither sources nor constraints. -/
  version : ∀ v, hidden? ms versionKey = some v → ∃ o, v = .obj o
    ∧ present? o "sourceFiles" "source_files" = none
    ∧ (Entries.get? o "constraints").any (·.isTruthy) = false
  sources : hidden? (readVersion ms) TemplateVersion.sourcesKey = none
  constraints : ∀ c, Entries.get? (readVersion ms) "constraints" = some (.obj c) → c ≠ [] →
    Constraints.HasBlock c

variable {ms o : Members} {t : Template}

/-- The version whose outline is taken is the one that is read, unless that one is empty and hides
another. -/
theorem version?_eq {key : String} (h : find? ms versionKey = some (key, .obj o)) :
    version? ms =
      match hidden? ms versionKey with
      | none => some o
      | some (.obj w) => some w
      | some _ => none := by
  have hpresent := present?_eq ms versionKey
  rw [h] at hpresent
  rw [version?, show present? ms "initialVersion" "initial_version" = _ from hpresent]
  cases o with
  | nil => rcases hidden? ms versionKey with _ | (_ | _ | _ | _ | _ | _ | _) <;> rfl
  | cons m o =>
    have hnone : hidden? ms versionKey = none := hidden?_eq_none h rfl
    simp [hnone, Option.filter, Json.isTruthy]

theorem readVersion_eq {key : String} (h : find? ms versionKey = some (key, .obj o)) :
    readVersion ms = o := by
  rw [readVersion, h]
  rfl

private theorem isPlain_iff_of_hidden? {key : String} {v : Json}
    (h : find? ms versionKey = some (key, .obj [])) (hhidden : hidden? ms versionKey = some v) :
    IsPlain ms ↔ ∃ o, v = .obj o ∧ present? o "sourceFiles" "source_files" = none
      ∧ (Entries.get? o "constraints").any (·.isTruthy) = false := by
  refine ⟨fun hplain => hplain.version v hhidden, fun hv => ⟨?_, ?_, ?_⟩⟩
  · rintro w hw
    obtain rfl := Option.some.inj (hhidden.symm.trans hw)
    exact hv
  · rw [readVersion_eq h]
    rfl
  · rw [readVersion_eq h]
    nofun

theorem hasKey_ofVersion (h : Template.read (.obj ms) = Reading.ok t) (version : Members) :
    (ofVersion ms version).hasKey = (ofTemplate t).hasKey := by
  obtain ⟨e, hfind, he⟩ := required_eq_ok_iff.1 (Template.read_obj_eq_ok_iff.1 h).1
  rw [find?_single] at hfind
  obtain ⟨_, hget, rfl⟩ := Option.map_eq_some_iff.1 hfind
  obtain ⟨rfl, -⟩ := Read.nonEmptyText_eq_ok_iff.1 he
  simp [ofVersion, ofTemplate, hget, Json.isTruthy]

/-- The outline of an object by the version that is read from it agrees with that of the template
exactly if no sources are hidden and constraints that hold anything hold a block. -/
theorem sameFindings_ofVersion_iff (h : Template.read (.obj ms) = Reading.ok t)
    (hversion : TemplateVersion.read (.obj o) = Reading.ok t.initialVersion) :
    SameFindings (ofVersion ms o) (ofTemplate t) ↔
      hidden? o TemplateVersion.sourcesKey = none ∧
        ∀ c, Entries.get? o "constraints" = some (.obj c) → c ≠ [] → Constraints.HasBlock c := by
  rw [sameFindings_iff (hasKey_ofVersion h o)]
  exact and_congr (TemplateVersion.isSome_sources_eq_iff hversion)
    (TemplateVersion.any_constraints_eq_iff hversion)

/-- The outline of an object by another version agrees with that of a template without sources and
constraints exactly if the version has neither. -/
theorem sameFindings_ofVersion_iff_of_empty (h : Template.read (.obj ms) = Reading.ok t)
    (hempty : TemplateVersion.read (.obj []) = Reading.ok t.initialVersion) (w : Members) :
    SameFindings (ofVersion ms w) (ofTemplate t) ↔
      present? w "sourceFiles" "source_files" = none ∧
        (Entries.get? w "constraints").any (·.isTruthy) = false := by
  have hversion : t.initialVersion = {} := (Reading.ok_eq_ok_iff.1 hempty).symm
  have hsources : (ofTemplate t).hasSources = false := by rw [ofTemplate, hversion]; rfl
  have hconstraints : (ofTemplate t).hasConstraints = false := by rw [ofTemplate, hversion]; rfl
  rw [sameFindings_iff (hasKey_ofVersion h w), hsources, hconstraints]
  exact and_congr (by simp [ofVersion]) Iff.rfl

/-- An object and the template read from it have the same errors, warnings and points exactly if the
object is plain. -/
theorem sameFindings_ofTemplate_iff (h : Template.read (.obj ms) = Reading.ok t) :
    (∃ o, ofMembers? ms = some o ∧ SameFindings o (ofTemplate t)) ↔ IsPlain ms := by
  obtain ⟨-, -, -, -, -, hversion⟩ := Template.read_obj_eq_ok_iff.1 h
  obtain ⟨⟨key, w⟩, hfind, hread⟩ := required_eq_ok_iff.1 hversion
  obtain ⟨o, rfl, -⟩ := read_eq_ok_iff.1 hread
  rw [ofMembers?_eq, version?_eq hfind]
  cases hhidden : hidden? ms versionKey with
  | none =>
    simp only [Option.map_some, Option.some.injEq, exists_eq_left']
    rw [sameFindings_ofVersion_iff h hread, ← readVersion_eq hfind]
    exact ⟨fun ⟨hsources, hconstraints⟩ => ⟨by simp [hhidden], hsources, hconstraints⟩,
      fun hplain => ⟨hplain.sources, hplain.constraints⟩⟩
  | some w =>
    -- What hides another version is empty, and so it is an empty version that was read.
    obtain ⟨e, hfind', he⟩ := exists_find?_of_hidden? hhidden
    obtain rfl := Option.some.inj (hfind.symm.trans hfind')
    obtain rfl : o = [] := by simpa [Json.isTruthy] using he
    rw [isPlain_iff_of_hidden? hfind hhidden]
    cases w with
    | obj w => simpa using sameFindings_ofVersion_iff_of_empty h hread w
    | _ => simp

/-- A shop with one source whose constraints name a block, but do not give it. -/
def hollowShop : Members :=
  [("key", "shop"),
    ("initialVersion", .obj [("sourceFiles", .arr [.obj [("path", "a.txt")]]),
      ("constraints", .obj [("a11y", .null)])])]

/-- The template that is read from it. -/
def bareShop : Template :=
  { key := "shop", initialVersion := { sourceFiles := [{ path := "a.txt" }] } }

theorem sameFindings_ofTemplate_iff_hollowShop :
    Template.read (.obj hollowShop) = Reading.ok bareShop ∧
      ((∃ o, ofMembers? hollowShop = some o ∧ SameFindings o (ofTemplate bareShop))
        ↔ IsPlain hollowShop) :=
  ⟨rfl, sameFindings_ofTemplate_iff rfl⟩

/-- Nothing is missing in the object of the shop, while the template read from it has no
constraints. -/
theorem not_forall_sameFindings_ofTemplate :
    ¬∀ ms t, Template.read (.obj ms) = Reading.ok t →
      ∃ o, ofMembers? ms = some o ∧ SameFindings o (ofTemplate t) := by
  intro hall
  obtain ⟨o, ho, hsame⟩ := hall hollowShop bareShop rfl
  obtain rfl : ⟨true, true, true⟩ = o := Option.some.inj ho
  have hkey : true = (ofTemplate bareShop).hasKey := by decide
  have hconstraints := ((sameFindings_iff hkey).1 hsame).2
  exact absurd hconstraints (by decide)

end Outline

end SiteTemplate
