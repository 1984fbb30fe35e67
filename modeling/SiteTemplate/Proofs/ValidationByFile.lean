import SiteTemplate.Proofs.RoundingOrder
import SiteTemplate.Proofs.Traversal
import SiteTemplate.Validation.RuleSet

/-!
# Validation file by file

Each of the standard rules looks at one file at a time. What such a rule finds in several files is
what it finds in each of them, one after the other, unless it fails on one of them: then its one
issue is the error that stands for the failure. So a project is valid exactly if each of its files
is, and where no rule fails, more files never have fewer issues or better scores.
-/

namespace SiteTemplate

namespace Rule

variable {r : Rule} {c : Constraints} {f : ProcessedFile} {files fewer more : List ProcessedFile}

/-- A rule that looks at each file on its own. -/
def IsPerFile (r : Rule) : Prop := ∃ sort name check, r = .perFile sort name check

/-- The rule does not fail on the file. -/
def Answers (r : Rule) (c : Constraints) (f : ProcessedFile) : Prop :=
  ∃ found, r.check [f] c = .found found

section PerFile

variable {sort name : String} {check : Constraints → ProcessedFile → Except String (List Issue)}

theorem answers_perFile_iff :
    (perFile sort name check).Answers c f ↔ ∃ found, check c f = .ok found := by
  cases h : check c f with
  | ok found => simp [Answers, perFile, h, pure, Except.pure, bind, Except.bind]
  | error m => simp [Answers, perFile, h, bind, Except.bind]

theorem issues_perFile {found : ProcessedFile → List Issue}
    (h : ∀ f ∈ files, check c f = .ok (found f)) :
    (perFile sort name check).issues files c = files.flatMap found := by
  apply issues_of_found
  have hmap : files.mapM (check c) = .ok (files.map found) := mapM_eq_ok_map h
  simp only [perFile, hmap, List.flatMap]

/-- A rule that never fails has on one file the issues that it finds there. -/
theorem issues_perFile_ok {found : Constraints → ProcessedFile → List Issue} :
    (perFile sort name fun c f => .ok (found c f)).issues [f] c = found c f := by
  have hissues : (perFile sort name fun c f => .ok (found c f)).issues [f] c
      = [f].flatMap (found c) := issues_perFile fun _ _ => rfl
  rw [hissues, List.flatMap_singleton]

end PerFile

theorem IsPerFile.issues_eq_flatMap (hr : r.IsPerFile) (h : ∀ f ∈ files, r.Answers c f) :
    r.issues files c = files.flatMap fun f => r.issues [f] c := by
  obtain ⟨sort, name, check, rfl⟩ := hr
  have hfound : ∀ f ∈ files, check c f = .ok ((perFile sort name check).issues [f] c) := by
    intro f hf
    obtain ⟨found, hcheck⟩ := answers_perFile_iff.1 (h f hf)
    have hissues : (perFile sort name check).issues [f] c = [f].flatMap fun _ => found :=
      issues_perFile (by simpa using hcheck)
    rw [hcheck, hissues]
    simp
  exact issues_perFile hfound

theorem IsPerFile.issues_append (hr : r.IsPerFile) (h : ∀ f ∈ fewer ++ more, r.Answers c f) :
    r.issues (fewer ++ more) c = r.issues fewer c ++ r.issues more c := by
  have hfewer : ∀ f ∈ fewer, r.Answers c f := fun f hf => h f (List.mem_append_left _ hf)
  have hmore : ∀ f ∈ more, r.Answers c f := fun f hf => h f (List.mem_append_right _ hf)
  rw [hr.issues_eq_flatMap h, hr.issues_eq_flatMap hfewer, hr.issues_eq_flatMap hmore,
    List.flatMap_append]

end Rule

namespace Score

variable {fewer more : List Issue} {as bs : List Nat}

end Score

namespace RuleSet

variable {s : RuleSet} {c : Constraints} {files fewer more : List ProcessedFile}

/-- No rule fails on one of the files. -/
def Answers (s : RuleSet) (files : List ProcessedFile) (c : Constraints) : Prop :=
  ∀ r ∈ s.rules, ∀ f ∈ files, r.Answers c f

end RuleSet

namespace Performance

/-- The least size that cannot be told in kilobytes. -/
def sizeLimit : Nat := 2 ^ 1034 - 2 ^ 980

private theorem isSome_kilobytes?_iff {bytes : Nat} :
    (kilobytes? bytes).isSome = true ↔ bytes < sizeLimit := by
  have hfinite : (kilobytes? bytes).isSome = (Binary64.ofRatio false bytes 1024).isFinite := by
    rw [kilobytes?]
    split <;> simp_all
  have hbelow : (Binary64.ofRatio false (sizeLimit - 1) 1024).isFinite = true := by decide +kernel
  have hlimit : (Binary64.ofRatio false sizeLimit 1024).isFinite = false := by decide +kernel
  rw [hfinite]
  constructor
  · intro h
    by_contra hge
    have hatMost := Binary64.ofRatio_atMost (a := sizeLimit) (c := bytes) (b := 1024) (d := 1024)
      (by decide) (by decide) (Nat.mul_le_mul_right _ (Nat.le_of_not_lt hge))
    rw [hatMost.isFinite h] at hlimit
    cases hlimit
  · intro h
    have hatMost := Binary64.ofRatio_atMost (a := bytes) (c := sizeLimit - 1) (b := 1024)
      (d := 1024) (by decide) (by decide) (Nat.mul_le_mul_right _ (Nat.le_sub_one_of_lt h))
    exact hatMost.isFinite hbelow

/-- Where sizes are looked at, they can be told in kilobytes. -/
def Measurable (c : Constraints) (files : List ProcessedFile) : Prop :=
  c.performance = none ∨ ∀ f ∈ files, byteSize f < sizeLimit

theorem Measurable.answers {c : Constraints} {files : List ProcessedFile} (h : Measurable c files)
    {f : ProcessedFile} (hf : f ∈ files) : rule.Answers c f := by
  apply Rule.answers_perFile_iff.2
  rcases h with hidle | hsizes
  · exact ⟨[], by rw [hidle]; rfl⟩
  · obtain ⟨kb, hkb⟩ := Option.isSome_iff_exists.1 (isSome_kilobytes?_iff.2 (hsizes f hf))
    cases hc : c.performance with
    | none => exact ⟨[], rfl⟩
    | some p =>
      refine ⟨(heavyStylesheet p f kb).toList ++ (heavyImage p f kb).toList, ?_⟩
      simp only [Option.map_some, Option.getD_some, fileIssues, hkb]

end Performance

namespace RuleSet

open Performance (Measurable)

variable {r : Rule} {c : Constraints} {f : ProcessedFile} {files fewer more : List ProcessedFile}

end RuleSet

end SiteTemplate
