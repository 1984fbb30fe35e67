import SiteTemplate.Proofs.ColorNames
import SiteTemplate.Proofs.KeptClasses

/-!
# Classes that a skin exchanges

A skin exchanges a radius or a shadow for which it has another step, and a background whose name
belongs to one of three families, unless the name is the very one that takes the family's place.
-/

namespace SiteTemplate.Skin

open Text ClassToken

variable {s : Skin} {cs : List Char} {name : String}

/-- A step is exchanged for itself or not at all. -/
def KeepsStep (steps : Entries String String) (step : String) : Prop :=
  ∀ other, Entries.get? steps step = some other → other = step

/-- A name of an exchanged family is the one for which the family is exchanged. -/
def KeepsName (s : Skin) (name : String) : Prop :=
  ("blue-".toList <+: name.toList → name = s.primary)
  ∧ ("yellow-".toList <+: name.toList → name = s.secondary)
  ∧ ("orange-".toList <+: name.toList → name = s.accent)

theorem keeps_of_utility?_eq_none (hrun : IsRun cs)
    (h : s.utility? (splitVariants cs).2 = none) : s.Keeps cs := by
  rw [keeps_of_isRun hrun, h]
  intro v hv
  cases hv

theorem keeps_step_iff {stem : List Char} {steps : Entries String String} {step : String}
    (hrun : IsRun (stem ++ step.toList)) (hcolon : ':' ∉ stem ++ step.toList)
    (h : s.utility? (stem ++ step.toList)
      = (Entries.get? steps step).map fun other => stem ++ other.toList) :
    s.Keeps (stem ++ step.toList) ↔ KeepsStep steps step := by
  rw [keeps_of_isRun hrun, splitVariants_eq hcolon, h, KeepsStep]
  simp only [Option.map_eq_some_iff, forall_exists_index, and_imp, forall_apply_eq_imp_iff₂,
    List.append_cancel_left_eq, String.toList_inj]

theorem keeps_rounded_lg : s.Keeps "rounded-lg".toList ↔ KeepsStep s.radiusSteps "lg" := by
  have hutility : s.utility? "rounded-lg".toList = (s.radius? "rounded-lg".toList).or none := rfl
  have hradius : s.radius? "rounded-lg".toList
      = (Entries.get? s.radiusSteps "lg").map fun other => "rounded-".toList ++ other.toList := rfl
  have hrun : IsRun ("rounded-".toList ++ "lg".toList) := isRun_of_any (by decide)
  rw [Option.or_none, hradius] at hutility
  exact keeps_step_iff hrun (by decide) hutility

theorem keeps_shadow {step : String} (hstep : step ∈ ["sm", "md"]) :
    s.Keeps ("shadow-".toList ++ step.toList) ↔ KeepsStep s.shadowSteps step := by
  have hchars : ∀ step ∈ ["sm", "md"], ("shadow-".toList ++ step.toList).any isDelimiter = false
      ∧ ':' ∉ "shadow-".toList ++ step.toList := by decide
  have hrun : IsRun ("shadow-".toList ++ step.toList) := isRun_of_any (hchars _ hstep).1
  have hcolon : ':' ∉ "shadow-".toList ++ step.toList := (hchars _ hstep).2
  apply keeps_step_iff hrun hcolon
  rcases List.mem_pair.1 hstep with rfl | rfl <;> rfl

theorem any_isDelimiter_nameChars : nameChars.any isDelimiter = false := by decide

theorem splitHyphen_append {a : List Char} (ha : '-' ∉ a) (b : List Char) :
    splitHyphen (a ++ '-' :: b) = (.ofList a, b) := by
  have hall := forall_bne_of_not_mem ha
  rw [splitHyphen, List.takeWhile_append_of_pos hall, List.dropWhile_append_of_pos hall]
  simp

theorem splitHyphen_eq {a : List Char} (ha : '-' ∉ a) : splitHyphen a = (.ofList a, []) := by
  have hall := forall_bne_of_not_mem ha
  rw [splitHyphen, List.takeWhile_eq_self_iff.2 hall, List.dropWhile_eq_nil_iff.2 hall]
  rfl

theorem utility?_background {cs rest : List Char} {family : String}
    (h : splitHyphen cs = (family, rest)) :
    s.utility? ("bg-".toList ++ cs)
      = if familySteps.contains (String.ofList (rest.takeWhile (· != '/')))
            && isOpacityMark (rest.dropWhile (· != '/')) then
          (s.familyColor? "bg" family).map fun color =>
            "bg-".toList ++ color.toList ++ rest.dropWhile (· != '/')
        else none := by
  have hothers : s.utility? ("bg-".toList ++ cs) = (s.color? ("bg-".toList ++ cs)).or none := rfl
  have hstem : splitHyphen ("bg-".toList ++ cs) = ("bg", cs) :=
    splitHyphen_append (a := ['b', 'g']) (by decide) cs
  rw [hothers, Option.or_none, color?]
  · simp only [hstem, h]
    rfl
  · intro rest heq
    exact absurd (List.cons.inj heq).1 (by decide)

private theorem utility?_background_step {family step : List Char} (hfamily : '-' ∉ family)
    (hstep : String.ofList step ∈ familySteps) (hslash : '/' ∉ step) :
    s.utility? ("bg-".toList ++ (family ++ '-' :: step))
      = (s.familyColor? "bg" (.ofList family)).map fun color => "bg-".toList ++ color.toList := by
  have hwhole := forall_bne_of_not_mem hslash
  have htake : step.takeWhile (· != '/') = step := List.takeWhile_eq_self_iff.2 hwhole
  have hdrop : step.dropWhile (· != '/') = [] := List.dropWhile_eq_nil_iff.2 hwhole
  have hcontains : familySteps.contains (String.ofList step) = true := List.contains_iff_mem.2 hstep
  have hopacity : isOpacityMark [] = true := rfl
  rw [utility?_background (splitHyphen_append hfamily step), htake, hdrop, hcontains, hopacity]
  simp only [List.append_nil, Bool.and_self, if_true]

private theorem utility?_background_of_not_mem {cs : List Char} (h : '-' ∉ cs) :
    s.utility? ("bg-".toList ++ cs) = none := by
  rw [utility?_background (splitHyphen_eq h)]
  rfl

private theorem familyColor?_background_iff {family color : String} :
    s.familyColor? "bg" family = some color ↔ (family = "blue" ∧ s.primary = color)
      ∨ (family = "yellow" ∧ s.secondary = color) ∨ (family = "orange" ∧ s.accent = color) := by
  unfold familyColor?
  split <;> simp_all

/-- The families that are exchanged. -/
def exchangedFamilies : List String := ["blue", "yellow", "orange"]

theorem prefix_step_iff {family : String × List String} {step : String}
    (hfamily : family ∈ Palette.families) (hstep : step ∈ colorSteps) {exchanged : String}
    (hexchanged : exchanged ∈ exchangedFamilies) :
    exchanged.toList ++ ['-'] <+: (family.1 ++ "-" ++ step).toList ↔ family.1 = exchanged := by
  have hprefix : ∀ f ∈ Palette.families, ∀ step ∈ colorSteps,
      ∀ exchanged ∈ exchangedFamilies,
        exchanged.toList ++ ['-'] <+: f.1.toList ++ '-' :: step.toList ↔ f.1 = exchanged := by
    decide +kernel
  have hchars : (family.1 ++ "-" ++ step).toList = family.1.toList ++ '-' :: step.toList := by simp
  rw [hchars]
  exact hprefix _ hfamily _ hstep _ hexchanged

private theorem keepsName_step_iff {family : String × List String} {step : String}
    (hfamily : family ∈ Palette.families) (hstep : step ∈ colorSteps) :
    s.KeepsName (family.1 ++ "-" ++ step)
      ↔ ∀ color, s.familyColor? "bg" family.1 = some color → color = family.1 ++ "-" ++ step := by
  have hblue := prefix_step_iff hfamily hstep (by decide : "blue" ∈ exchangedFamilies)
  have hyellow := prefix_step_iff hfamily hstep (by decide : "yellow" ∈ exchangedFamilies)
  have horange := prefix_step_iff hfamily hstep (by decide : "orange" ∈ exchangedFamilies)
  simp only [familyColor?_background_iff]
  constructor
  · rintro ⟨hprimary, hsecondary, haccent⟩ color (⟨hf, rfl⟩ | ⟨hf, rfl⟩ | ⟨hf, rfl⟩)
    · exact (hprimary (hblue.2 hf)).symm
    · exact (hsecondary (hyellow.2 hf)).symm
    · exact (haccent (horange.2 hf)).symm
  · intro h
    exact ⟨fun hname => (h _ (.inl ⟨hblue.1 hname, rfl⟩)).symm,
      fun hname => (h _ (.inr (.inl ⟨hyellow.1 hname, rfl⟩))).symm,
      fun hname => (h _ (.inr (.inr ⟨horange.1 hname, rfl⟩))).symm⟩

theorem keeps_background_iff {run : List Char} (hname : IsColorName name) (hrun : IsRun run)
    (hsplit : (splitVariants run).2 = "bg-".toList ++ name.toList) :
    s.Keeps run ↔ s.KeepsName name := by
  rw [keeps_of_isRun hrun, hsplit]
  -- A name in brackets has no hyphen and so neither a family nor a step.
  cases hname with
  | @step family step hfamily hstep =>
    have hhyphen : ∀ f ∈ Palette.families, '-' ∉ f.1.toList := by decide +kernel
    have hslash : ∀ step ∈ colorSteps, '/' ∉ step.toList := by decide +kernel
    have hsteps : String.ofList step.toList ∈ familySteps := by rwa [String.ofList_toList]
    have hutility := utility?_background_step (s := s) (hhyphen _ hfamily) hsteps (hslash _ hstep)
    have hchars : (family.1 ++ "-" ++ step).toList = family.1.toList ++ '-' :: step.toList := by
      simp
    rw [← hchars, String.ofList_toList] at hutility
    rw [hutility, keepsName_step_iff hfamily hstep]
    simp only [Option.map_eq_some_iff, forall_exists_index, and_imp, forall_apply_eq_imp_iff₂,
      List.append_cancel_left_eq, String.toList_inj]
  | @digits ds hlength hdigits =>
    have hchars : (String.ofList ('[' :: '#' :: (ds ++ [']']))).toList
        = '[' :: '#' :: (ds ++ [']']) := String.toList_ofList
    have hhyphen : '-' ∉ ds := fun hmem => absurd (hdigits _ hmem) (by decide)
    have hutility := utility?_background_of_not_mem (s := s)
      (not_mem_bracketed hhyphen (by decide))
    rw [KeepsName, hchars, hutility]
    simp

theorem keeps_background (h : IsColorName name) :
    s.Keeps ("bg-" ++ name).toList ↔ s.KeepsName name := by
  have hrun : IsRun ("bg-" ++ name).toList :=
    h.forall_mem_append any_isDelimiter_nameChars (by decide)
  exact keeps_background_iff h hrun (congrArg Prod.snd h.splitVariants_background)

theorem keeps_hoverBackground (h : IsColorName name) :
    s.Keeps ("hover:bg-" ++ name).toList ↔ s.KeepsName name := by
  have hrun : IsRun ("hover:bg-" ++ name).toList :=
    h.forall_mem_append any_isDelimiter_nameChars (by decide)
  exact keeps_background_iff h hrun (congrArg Prod.snd h.splitVariants_hoverBackground)

end SiteTemplate.Skin
