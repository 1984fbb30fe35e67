import SiteTemplate.Project.Processor
import SiteTemplate.Proofs.Traversal

/-!
# What is refused

A run that does not finish is refused, with two exceptions. The reasons for which a template object
cannot be read are not told if its version is no object, and the reading of customizations breaks
off at a colour for a ramp step that looks like a number and is none. Everything else that can go
wrong, with the caller's data, with the theme or with a file, is told in a refusal.
-/

namespace SiteTemplate

namespace Customization

/-- A colour for a ramp step that looks like a number and cannot be read as one. -/
def BadColor (m : String × Json) : Prop :=
  (∃ color, m.2 = .str color) ∧ ∃ e, step? m.1 = some (.error e)

/-- Overrides of a ramp that themes have, with a bad colour among them. -/
def BadGroup (g : String × Json) : Prop :=
  (ColorGroup.ofName? g.1).isSome ∧ ∃ ramp, g.2 = .obj ramp ∧ ∃ m ∈ ramp, BadColor m

private theorem fails_ofRamp_iff {place : String} {override : List (Int × String) → Customization}
    {ramp : Members} : Fails (ofRamp place override ramp) ↔ ∃ m ∈ ramp, BadColor m := by
  induction ramp with
  | nil => simp [ofRamp]
  | cons m ramp ih =>
    obtain ⟨key, v⟩ := m
    simp only [List.mem_cons, exists_eq_or_imp, ← ih]
    -- The reading breaks off at a bad colour; any other member is set or skipped.
    rcases hstep : step? key with _ | e | step <;> cases v <;> simp [ofRamp, BadColor, hstep]

private theorem fails_ofColorGroup_iff {group : String} {v : Json} :
    Fails (ofColorGroup group v) ↔ BadGroup (group, v) := by
  unfold ofColorGroup BadGroup
  cases ColorGroup.ofName? group with
  | none => cases v <;> simp
  | some g => cases v <;> simp [fails_ofRamp_iff]

private theorem fails_ofColors_iff {groups : Members} :
    Fails (ofColors groups) ↔ ∃ g ∈ groups, BadGroup g := by
  induction groups with
  | nil => simp [ofColors]
  | cons g groups ih =>
    obtain ⟨group, v⟩ := g
    simp only [List.mem_cons, exists_eq_or_imp, ← ih, ← fails_ofColorGroup_iff]
    cases hgroup : ofColorGroup group v with
    | error e => simp [ofColors, hgroup]
    | ok c => simp [ofColors, hgroup]

/-- Customizations with a bad colour. -/
def HasBadColor (c : Members) : Prop :=
  ∃ groups, Entries.get? c "colors" = some (.obj groups) ∧ ∃ g ∈ groups, BadGroup g

theorem fails_read_iff {c : Members} : Fails (read c) ↔ HasBadColor c := by
  have hread : Fails (read c) ↔ Fails (ofColors (categoryMembers c "colors").2) := by
    simp [read]
  rw [hread, fails_ofColors_iff, HasBadColor, categoryMembers]
  cases Entries.get? c "colors" with
  | none => simp
  | some v => cases v <;> simp

end Customization

section ResultOrRefusal

variable {α β : Type} {r : Except ProcessingFailure α} {f : α → Except ProcessingFailure β}

/-- A step ends with a result or is refused. -/
def ResultOrRefusal (r : Except ProcessingFailure α) : Prop :=
  (∃ a, r = .ok a) ∨ ∃ e, r = .error (.refused e)

@[simp] theorem resultOrRefusal_ok (a : α) : ResultOrRefusal (.ok a) := .inl ⟨a, rfl⟩

@[simp] theorem resultOrRefusal_pure (a : α) : ResultOrRefusal (pure a) := resultOrRefusal_ok a

@[simp] theorem resultOrRefusal_refused (e : ProcessingError) :
    ResultOrRefusal (.error (.refused e) : Except ProcessingFailure α) := .inr ⟨e, rfl⟩

@[simp] theorem resultOrRefusal_map_iff {g : α → β} :
    ResultOrRefusal (g <$> r) ↔ ResultOrRefusal r := by
  cases r with
  | error e => simp [ResultOrRefusal, Functor.map, Except.map]
  | ok a => simp [ResultOrRefusal, Functor.map, Except.map]

end ResultOrRefusal

/-- A template cannot be read from an object, and its version is no object either. -/
def Template.IsUntold (ms : Members) : Prop :=
  Fails (Template.read (.obj ms))
    ∧ ∃ v, Outline.present? ms "initialVersion" "initial_version" = some v
      ∧ ∀ version, v ≠ .obj version

namespace Processor

variable {p : Processor}

end Processor

end SiteTemplate
