import Mathlib.Data.List.Pairwise
import SiteTemplate.Proofs.TemplateReading

/-!
# Records that are written

A record is read back from what was written of it, in either spelling: no spelling of one field is
a spelling of another, so every field finds what was written under its key. This leaves the values
of the fields. The blocks of the constraints come back as they are, whatever they hold.
-/

namespace SiteTemplate

open Record

variable {α : Type} {s : Spelling}

/-- No spelling of one key is a spelling of the other. -/
def Key.IsApart (k j : Key) : Prop :=
  k.name ≠ j.name ∧ k.name ≠ j.wire ∧ k.wire ≠ j.name ∧ k.wire ≠ j.wire

namespace Key

instance : Std.Symm IsApart :=
  ⟨fun _ _ ⟨hnames, hcross, hcross', hwires⟩ =>
    ⟨hnames.symm, hcross'.symm, hcross.symm, hwires.symm⟩⟩

private theorem IsApart.spell_ne {k j : Key} (h : k.IsApart j) (s : Spelling) :
    k.spell s ≠ j.spell s := by
  cases s with
  | wire => exact h.2.2.2
  | plain => exact h.1

end Key

namespace Record

variable {fields : List (Key × Json)} {k : Key} {v : Json}

/-- No key is written twice. -/
theorem nodup_keys_written (hapart : (fields.map Prod.fst).Pairwise Key.IsApart) :
    (Entries.keys (fields.map fun (k, v) => (k.spell s, v))).Nodup := by
  rw [Entries.keys, List.map_map, List.nodup_iff_pairwise_ne, List.pairwise_map]
  exact (List.pairwise_map.1 hapart).imp fun hne => hne.spell_ne s

private theorem get?_of_mem (hapart : (fields.map Prod.fst).Pairwise Key.IsApart)
    (h : (k, v) ∈ fields) :
    Entries.get? (fields.map fun (k, v) => (k.spell s, v)) (k.spell s) = some v :=
  Entries.get?_eq_some_of_mem (nodup_keys_written hapart) (List.mem_map.2 ⟨(k, v), h, rfl⟩)

private theorem eq_of_name_eq_wire (hapart : (fields.map Prod.fst).Pairwise Key.IsApart)
    (h : (k, v) ∈ fields) {j : Key} {w : Json} (hj : (j, w) ∈ fields) (heq : j.name = k.wire) :
    j = k := by
  by_contra hne
  exact (hapart.forall (List.mem_map_of_mem hj) (List.mem_map_of_mem h) hne).2.1 heq

private theorem find?_of_mem (hapart : (fields.map Prod.fst).Pairwise Key.IsApart)
    (h : (k, v) ∈ fields) :
    find? (fields.map fun (k, v) => (k.spell s, v)) k = some (k.spell s, v) := by
  have hget := get?_of_mem (s := s) hapart h
  cases s with
  | wire => rw [find?, show Entries.get? _ k.wire = _ from hget]; rfl
  | plain =>
    rw [find?]
    cases hwire : Entries.get? (fields.map fun (k, v) => (k.spell .plain, v)) k.wire with
    | none => rw [show Entries.get? _ k.name = _ from hget]; rfl
    | some w =>
      -- What stands under the name on the wire stands there because it is the plain name, too.
      obtain ⟨⟨j, w'⟩, hj, heq⟩ := List.mem_map.1 (Entries.mem_of_get?_eq_some hwire)
      obtain ⟨hname, rfl⟩ := Prod.mk.inj heq
      obtain rfl := eq_of_name_eq_wire hapart h hj hname
      rw [← hname] at hwire
      obtain rfl := Option.some.inj (hget.symm.trans hwire)
      rw [← hname]

/-- What was written is an object in which every field finds its value. -/
theorem exists_of_eq_write {j : Json} (h : j = write s fields)
    (hapart : (fields.map Prod.fst).Pairwise Key.IsApart) :
    ∃ o, j = .obj o ∧ ∀ e ∈ fields, find? o e.1 = some (e.1.spell s, e.2) :=
  ⟨_, h, fun _ he => find?_of_mem hapart he⟩

end Record

namespace Read

variable {read : Json → Reading α} {write : α → Json}

@[simp] theorem text_str (t : String) : text (.str t) = Reading.ok t := rfl

@[simp] theorem bool_bool (b : Bool) : bool (.bool b) = Reading.ok b := rfl

@[simp] theorem int_int (n : Int) : int (.int n) = Reading.ok n := rfl

theorem intAtLeast_int_eq_ok_iff {least n : Int} :
    intAtLeast least (.int n) = Reading.ok n ↔ least ≤ n := by
  rw [intAtLeast, int_int, Reading.andThen_ok]
  by_cases h : n < least
  · simp [h]
  · simp [h, Int.not_lt.1 h]

@[simp] theorem nat_int (n : Nat) : nat (.int n) = Reading.ok n := by
  rw [nat, intAtLeast_int_eq_ok_iff.2 (Int.natCast_nonneg n)]
  rfl

@[simp] theorem nullable_text_ofText? (t : Option String) :
    nullable text (.ofText? t) = Reading.ok t := by
  cases t <;> rfl

theorem list_map_eq_ok_iff {as : List α} :
    list read (.arr (as.map write)) = Reading.ok as ↔ ∀ a ∈ as, read (write a) = Reading.ok a := by
  simp only [list_eq_ok_iff, Json.arr.injEq, exists_eq_left', List.forall₂_map_left_iff,
    List.forall₂_same]

@[simp] theorem list_text_ofTexts (ts : List String) : list text (.ofTexts ts) = Reading.ok ts :=
  list_map_eq_ok_iff.2 fun _ _ => rfl

theorem entries_mapValues_eq_ok_iff {es : Entries String α} :
    entries read (.obj (Entries.mapValues write es)) = Reading.ok es ↔
      ∀ e ∈ es, read (write e.2) = Reading.ok e.2 := by
  simp only [entries_eq_ok_iff, Json.obj.injEq, exists_eq_left', Entries.mapValues,
    List.forall₂_map_left_iff, List.forall₂_same, true_and]

end Read

theorem TemplateMeta.read_toJson (m : TemplateMeta) : read (m.toJson s) = Reading.ok m := by
  obtain ⟨o, ho, hfind⟩ := exists_of_eq_write (rfl : m.toJson s = _)
    (by simp [Key.IsApart, Key.single])
  simp only [List.forall_mem_cons] at hfind
  have hstatus : Read.choice [.published, .draft, .archived] Status.name (.str m.status.name)
      = Reading.ok m.status := by
    cases m.status <;> rfl
  have hversioning : Read.nullable (Read.choice [.semver, .numeric] Versioning.name)
      (.ofText? (m.versioningPolicy.map (·.name))) = Reading.ok m.versioningPolicy := by
    rcases m.versioningPolicy with _ | _ | _ <;> rfl
  simp [ho, read, Record.read, Record.optional, hfind, hstatus, hversioning]

theorem AccessibilityConstraints.read_toJson (c : AccessibilityConstraints) :
    read (c.toJson s) = Reading.ok c := by
  obtain ⟨o, ho, hfind⟩ := exists_of_eq_write (rfl : c.toJson s = _)
    (by simp [Key.IsApart, Key.single])
  simp only [List.forall_mem_cons] at hfind
  have hcontrast : Read.choice [.aa, .aaa] Contrast.name (.str c.contrast.name)
      = Reading.ok c.contrast := by
    cases c.contrast <;> rfl
  simp [ho, read, Record.read, Record.optional, hfind, hcontrast]

theorem SeoConstraints.read_toJson (c : SeoConstraints) :
    read (c.toJson s) = Reading.ok c := by
  obtain ⟨o, ho, hfind⟩ := exists_of_eq_write (rfl : c.toJson s = _)
    (by simp [Key.IsApart])
  simp only [List.forall_mem_cons] at hfind
  simp [ho, read, Record.read, Record.optional, hfind]

theorem ContentConstraints.read_toJson (c : ContentConstraints) :
    read (c.toJson s) = Reading.ok c := by
  obtain ⟨o, ho, hfind⟩ := exists_of_eq_write (rfl : c.toJson s = _)
    (by simp [Key.IsApart, Key.single])
  simp only [List.forall_mem_cons] at hfind
  simp [ho, read, Record.read, Record.optional, hfind, SeoConstraints.read_toJson]

theorem AssetConstraint.read_toJson (c : AssetConstraint) :
    read (c.toJson s) = Reading.ok c := by
  obtain ⟨o, ho, hfind⟩ := exists_of_eq_write (rfl : c.toJson s = _)
    (by simp [Key.IsApart])
  simp only [List.forall_mem_cons] at hfind
  have hwidth : Read.nullable Read.int ((c.minWidth.map Json.int).getD .null)
      = Reading.ok c.minWidth := by
    cases c.minWidth <;> rfl
  simp [ho, read, Record.read, Record.optional, hfind, hwidth]

theorem PerformanceConstraints.read_toJson (c : PerformanceConstraints) :
    read (c.toJson s) = Reading.ok c := by
  obtain ⟨o, ho, hfind⟩ := exists_of_eq_write (rfl : c.toJson s = _)
    (by simp [Key.IsApart])
  simp only [List.forall_mem_cons] at hfind
  simp [ho, read, Record.read, Record.optional, hfind]

theorem SecurityConstraints.read_toJson (c : SecurityConstraints) :
    read (c.toJson s) = Reading.ok c := by
  obtain ⟨o, ho, hfind⟩ := exists_of_eq_write (rfl : c.toJson s = _)
    (by simp [Key.IsApart])
  simp only [List.forall_mem_cons] at hfind
  simp [ho, read, Record.read, Record.optional, hfind]

theorem CodeConstraints.read_toJson (c : CodeConstraints) :
    read (c.toJson s) = Reading.ok c := by
  obtain ⟨o, ho, hfind⟩ := exists_of_eq_write (rfl : c.toJson s = _)
    (by simp [Key.IsApart, Key.single])
  simp only [List.forall_mem_cons] at hfind
  simp [ho, read, Record.read, Record.optional, hfind]

namespace Constraints

/-- A block comes back, there or not, if blocks that are there come back and are not written as
null. -/
theorem nullable_block {read : Json → Reading α} {write : α → Json} {c : Option α}
    (hread : ∀ a, read (write a) = Reading.ok a) (hwrite : ∀ a, write a ≠ .null) :
    Read.nullable read (block write c) = Reading.ok c := by
  cases c with
  | none => rfl
  | some a => exact Read.nullable_eq_ok_some_iff.2 ⟨hwrite a, hread a⟩

/-- Constraints come back, whichever of their blocks are there. -/
theorem read_toJson (c : Constraints) : read (c.toJson s) = Reading.ok c := by
  obtain ⟨o, ho, hfind⟩ := exists_of_eq_write (rfl : c.toJson s = _)
    (by simp [Key.IsApart, Key.single])
  simp only [List.forall_mem_cons] at hfind
  have hassets (as : Entries String AssetConstraint) :
      Read.entries AssetConstraint.read (.obj (Entries.mapValues (·.toJson s) as))
        = Reading.ok as :=
    Read.entries_mapValues_eq_ok_iff.2 fun e _ => e.2.read_toJson
  have hobject (ms : Members) : Json.obj ms ≠ .null := Json.noConfusion
  obtain ⟨ha11y, hcontent, hfindAssets, hperformance, hsecurity, hcode, -⟩ := hfind
  rw [ho, read_obj_eq_ok_iff]
  exact ⟨
    optional_of_find? ha11y (nullable_block AccessibilityConstraints.read_toJson fun _ => hobject _),
    optional_of_find? hcontent (nullable_block ContentConstraints.read_toJson fun _ => hobject _),
    optional_of_find? hfindAssets (nullable_block hassets fun _ => hobject _),
    optional_of_find? hperformance
      (nullable_block PerformanceConstraints.read_toJson fun _ => hobject _),
    optional_of_find? hsecurity (nullable_block SecurityConstraints.read_toJson fun _ => hobject _),
    optional_of_find? hcode (nullable_block CodeConstraints.read_toJson fun _ => hobject _)⟩

end Constraints

/-- A source file comes back if it has a path. -/
theorem SourceFile.read_toJson_eq_ok_iff {f : SourceFile} :
    read (f.toJson s) = Reading.ok f ↔ f.path ≠ "" := by
  obtain ⟨o, ho, hfind⟩ := exists_of_eq_write (rfl : f.toJson s = _)
    (by simp [Key.IsApart, Key.single])
  simp only [List.forall_mem_cons] at hfind
  have htype : Read.choice SourceType.all (·.name) (.str f.type.name) = Reading.ok f.type := by
    cases f.type <;> rfl
  have hencoding : Read.choice [.utf8, .base64] SourceEncoding.name (.str f.encoding.name)
      = Reading.ok f.encoding := by
    cases f.encoding <;> rfl
  simp [ho, read_obj_eq_ok_iff, Record.optional, Record.required, hfind, htype, hencoding,
    Read.nonEmptyText_eq_ok_iff]

end SiteTemplate
