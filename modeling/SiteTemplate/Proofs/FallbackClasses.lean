import SiteTemplate.Proofs.ExchangedClasses
import SiteTemplate.Proofs.ThemeChoice
import SiteTemplate.Resolve.Fallback

/-!
# Class lists of the fallback under their own theme

A class list that the fallback writes is put into the skin of its theme with everything else. The
skin keeps it unless it exchanges one of its classes. Of the classes that belong to elements these
can only be the backgrounds, radii and shadows; the theme's base classes are free.
-/

namespace SiteTemplate

open Text ClassToken

variable {t : Theme} {s : Skin}

theorem Ramp.isComplete_iff {r : Ramp} : r.isComplete = true ↔
    (∀ step ∈ Palette.steps, Entries.has r step = true)
      ∧ ∀ color ∈ Entries.values r, isHexColor color = true := by
  simp only [Ramp.isComplete, Bool.and_eq_true, List.all_eq_true]

theorem Theme.isComplete_ramp (h : t.isComplete = true) (g : ColorGroup) :
    (t.colors.ramp g).isComplete = true := by
  have hgroup : g ∈ ColorGroup.all := by cases g <;> decide
  simp only [isComplete, Bool.and_eq_true, List.all_eq_true] at h
  exact h.1.1 g hgroup

/-- All ramps have all steps; what colours stand there does not matter. -/
def Theme.HasSteps (t : Theme) : Prop :=
  ∀ g, ∀ step ∈ Palette.steps, Entries.has (t.colors.ramp g) step = true

theorem Theme.hasSteps_of_isComplete (h : t.isComplete = true) : t.HasSteps :=
  fun g => (Ramp.isComplete_iff.1 (isComplete_ramp h g)).1

theorem Theme.color_eq_ok_iff {g : ColorGroup} {step : Int} {color : String} :
    t.color g step = .ok color ↔ Entries.get? (t.colors.ramp g) step = some color := by
  unfold Theme.color
  cases Entries.get? (t.colors.ramp g) step with
  | none => simp
  | some c => simp

theorem Theme.HasSteps.exists_color (h : t.HasSteps) (g : ColorGroup) {step : Int}
    (hstep : step ∈ Palette.steps) : ∃ color, t.color g step = .ok color := by
  simp only [color_eq_ok_iff]
  exact Option.isSome_iff_exists.1 (h g step hstep)

theorem Theme.isHexColor_of_get? {g : ColorGroup} {step : Int} {color : String}
    (h : t.isComplete = true) (hcolor : Entries.get? (t.colors.ramp g) step = some color) :
    isHexColor color = true :=
  (Ramp.isComplete_iff.1 (isComplete_ramp h g)).2 _
    (List.mem_map_of_mem (f := Prod.snd) (Entries.mem_of_get?_eq_some hcolor))

theorem Theme.isColorName_of_color {g : ColorGroup} {step : Int} {color : String}
    (h : t.isComplete = true) (hcolor : t.color g step = .ok color) :
    IsColorName (Palette.colorName color) :=
  isColorName_colorName (isHexColor_of_get? h (color_eq_ok_iff.1 hcolor))

theorem Skin.exists_ofTheme (h : t.HasSteps) : ∃ s, ofTheme t = .ok s := by
  obtain ⟨primary, hprimary⟩ := h.exists_color .primary (by decide : 600 ∈ Palette.steps)
  obtain ⟨secondary, hsecondary⟩ := h.exists_color .secondary (by decide : 500 ∈ Palette.steps)
  obtain ⟨accent, haccent⟩ := h.exists_color .accent (by decide : 500 ∈ Palette.steps)
  rw [ofTheme, hprimary, hsecondary, haccent]
  exact ⟨_, rfl⟩

private theorem Skin.primary_of_ofTheme {rest : String} (hs : ofTheme t = .ok s)
    (hrest : t.color .primary 600 = .ok rest) : s.primary = Palette.colorName rest := by
  simp only [ofTheme, hrest, bind_eq_ok_iff, pure, Except.pure, Except.ok.injEq] at hs
  obtain ⟨primary, rfl, secondary, -, accent, -, hskin⟩ := hs
  rw [← hskin]

namespace Element

/-- The classes of elements that no theme has a say in. -/
def plainClasses : List String :=
  ["text-white", "px-4", "py-2", "font-medium", "transition-colors", "text-3xl", "md:text-4xl",
    "font-semibold", "leading-tight", "bg-white", "p-6", "border-b", "bg-gray-900", "text-gray-200"]

theorem keeps_plainClasses : ∀ w ∈ plainClasses, s.Keeps w.toList := by
  have hrun : ∀ w ∈ plainClasses, w.toList.any Skin.isDelimiter = false := by decide
  have hnone : ∀ w ∈ plainClasses, s.utility? (splitVariants w.toList).2 = none := by
    simp only [plainClasses, List.forall_mem_cons]
    exact ⟨rfl, rfl, rfl, rfl, rfl, rfl, rfl, rfl, rfl, rfl, rfl, rfl, rfl, rfl,
      fun w hw => absurd hw List.not_mem_nil⟩
  exact fun w hw => Skin.keeps_of_utility?_eq_none (Skin.isRun_of_any (hrun w hw)) (hnone w hw)

/-- What a skin has to leave alone for it to keep the classes of an element. -/
def KeptBy (t : Theme) (s : Skin) : Element → Prop
  | .button => s.KeepsName s.primary
      ∧ (∀ hover, t.color .primary 700 = .ok hover → s.KeepsName (Palette.colorName hover))
      ∧ Skin.KeepsStep s.radiusSteps "lg"
  | .card => Skin.KeepsStep s.shadowSteps "md" ∧ Skin.KeepsStep s.radiusSteps "lg"
  | .header => Skin.KeepsStep s.shadowSteps "sm"
  | .heading | .footer | .generic => True

/-- The classes of a button after its two backgrounds. -/
def buttonRest : String := "text-white px-4 py-2 rounded-lg font-medium transition-colors"

private theorem lastWords_buttonClasses {rest hover : String} (hrest : IsColorName rest)
    (hhover : IsColorName hover) :
    lastWords (ofList (buttonClasses rest hover).toList)
      = background rest :: hoverBackground hover :: lastWords (ofList buttonRest.toList) := by
  have hchars : (buttonClasses rest hover).toList
      = ("bg-" ++ rest).toList
        ++ ' ' :: (("hover:bg-" ++ hover).toList ++ ' ' :: buttonRest.toList) := by
    simp [buttonClasses, buttonRest]
  have hblank : isBlank ' ' = true := by decide
  have hatRest : ofList ("bg-" ++ rest).toList = [background rest] :=
    ofList_of_parse? (by simp) hrest.not_isBlank_background hrest.parse?_background
  have hatHover : ofList ("hover:bg-" ++ hover).toList = [hoverBackground hover] :=
    ofList_of_parse? (by simp) hhover.not_isBlank_hoverBackground hhover.parse?_hoverBackground
  -- What comes later sets no background, so that both survive.
  have hrestFree : (hoverBackground hover :: ofList buttonRest.toList).any
      (conflicts (background rest)) = (hoverBackground "" :: ofList buttonRest.toList).any
        (conflicts (background "")) := rfl
  have hhoverFree : (ofList buttonRest.toList).any (conflicts (hoverBackground hover))
      = (ofList buttonRest.toList).any (conflicts (hoverBackground "")) := rfl
  have hfree : (hoverBackground "" :: ofList buttonRest.toList).any (conflicts (background ""))
      = false := by decide
  have hfreeHover : (ofList buttonRest.toList).any (conflicts (hoverBackground "")) = false := by
    decide
  rw [hchars, ofList_append_blank hblank, ofList_append_blank hblank, hatRest, hatHover]
  simp only [List.cons_append, List.nil_append, lastWords_cons, hrestFree, hhoverFree, hfree,
    hfreeHover, Bool.false_eq_true, if_false]

/-- A list that holds plain classes and some others is kept if the others are. -/
private theorem keeps_tokens_iff {tokens : List ClassToken} {raws : List String}
    (others : List String) (hraws : tokens.map (·.raw) = raws)
    (hplain : ∀ w ∈ raws, w ∉ others → w ∈ plainClasses) (hothers : ∀ w ∈ others, w ∈ raws) :
    (∀ τ ∈ tokens, s.Keeps τ.raw.toList) ↔ ∀ w ∈ others, s.Keeps w.toList := by
  subst hraws
  constructor
  · intro h w hw
    obtain ⟨τ, hτ, rfl⟩ := List.mem_map.1 (hothers w hw)
    exact h τ hτ
  · intro h τ hτ
    by_cases hother : τ.raw ∈ others
    · exact h _ hother
    · exact keeps_plainClasses _ (hplain _ (List.mem_map_of_mem hτ) hother)

private theorem keeps_button_iff {rest hover : String} (hrest : IsColorName rest)
    (hhover : IsColorName hover) :
    (∀ τ ∈ lastWords (ofList (buttonClasses rest hover).toList), s.Keeps τ.raw.toList)
      ↔ s.KeepsName rest ∧ s.KeepsName hover ∧ Skin.KeepsStep s.radiusSteps "lg" := by
  have hraws : (lastWords (ofList buttonRest.toList)).map (·.raw)
      = ["text-white", "px-4", "py-2", "rounded-lg", "font-medium", "transition-colors"] := by
    decide
  have hrestKept : s.Keeps (background rest).raw.toList ↔ s.KeepsName rest :=
    Skin.keeps_background hrest
  have hhoverKept : s.Keeps (hoverBackground hover).raw.toList ↔ s.KeepsName hover :=
    Skin.keeps_hoverBackground hhover
  rw [lastWords_buttonClasses hrest hhover, List.forall_mem_cons, List.forall_mem_cons,
    keeps_tokens_iff ["rounded-lg"] hraws (by decide) (by decide), hrestKept, hhoverKept,
    List.forall_mem_singleton, Skin.keeps_rounded_lg]

private theorem keeps_iff {e : Element} {own : String} (ht : t.isComplete = true)
    (hs : Skin.ofTheme t = .ok s) (hown : e.classes t = .ok own) :
    (∀ τ ∈ lastWords (ofList own.toList), s.Keeps τ.raw.toList) ↔ e.KeptBy t s := by
  have hmd : s.Keeps "shadow-md".toList ↔ Skin.KeepsStep s.shadowSteps "md" :=
    Skin.keeps_shadow (by decide : "md" ∈ ["sm", "md"])
  have hsm : s.Keeps "shadow-sm".toList ↔ Skin.KeepsStep s.shadowSteps "sm" :=
    Skin.keeps_shadow (by decide : "sm" ∈ ["sm", "md"])
  cases e with
  | button =>
    simp only [classes, bind_eq_ok_iff] at hown
    obtain ⟨rest, hrest, hover, hhover, hbutton⟩ := hown
    obtain rfl := Except.ok.inj hbutton
    have hrestName := Theme.isColorName_of_color ht hrest
    have hhoverName := Theme.isColorName_of_color ht hhover
    rw [keeps_button_iff hrestName hhoverName, KeptBy, Skin.primary_of_ofTheme hs hrest, hhover]
    simp only [Except.ok.injEq, forall_eq']
  | heading =>
    cases hown
    have hraws : (lastWords (ofList "text-3xl md:text-4xl font-semibold leading-tight".toList)).map
        (·.raw) = ["text-3xl", "md:text-4xl", "font-semibold", "leading-tight"] := by
      decide
    rw [keeps_tokens_iff [] hraws (by decide) (by decide)]
    exact iff_of_true (List.forall_mem_nil _) trivial
  | card =>
    cases hown
    have hraws : (lastWords (ofList "bg-white shadow-md rounded-lg p-6".toList)).map (·.raw)
        = ["bg-white", "shadow-md", "rounded-lg", "p-6"] := by decide
    rw [keeps_tokens_iff ["shadow-md", "rounded-lg"] hraws (by decide) (by decide), KeptBy,
      List.forall_mem_cons, List.forall_mem_singleton, hmd, Skin.keeps_rounded_lg]
  | header =>
    cases hown
    have hraws : (lastWords (ofList "bg-white border-b shadow-sm".toList)).map (·.raw)
        = ["bg-white", "border-b", "shadow-sm"] := by decide
    rw [keeps_tokens_iff ["shadow-sm"] hraws (by decide) (by decide), KeptBy,
      List.forall_mem_singleton, hsm]
  | footer =>
    cases hown
    have hraws : (lastWords (ofList "bg-gray-900 text-gray-200".toList)).map (·.raw)
        = ["bg-gray-900", "text-gray-200"] := by decide
    rw [keeps_tokens_iff [] hraws (by decide) (by decide)]
    exact iff_of_true (List.forall_mem_nil _) trivial
  | generic =>
    cases hown
    exact iff_of_true (fun τ hτ => absurd hτ List.not_mem_nil) trivial

end Element

private theorem Skin.keeps_merge_iff {base own : String} :
    s.Keeps (merge [base, own]).toList
      ↔ (∀ τ ∈ lastWords (ofList base.toList),
          (ofList own.toList).any (conflicts τ) = false → s.Keeps τ.raw.toList)
        ∧ ∀ τ ∈ lastWords (ofList own.toList), s.Keeps τ.raw.toList := by
  have htokens : [base, own].flatMap (fun list => ofList list.toList)
      = ofList base.toList ++ ofList own.toList := by simp
  rw [merge, htokens, keeps_intercalate, List.forall_mem_map, lastWords_append,
    List.forall_mem_append]
  simp only [List.mem_filter, Bool.not_eq_true', and_imp]

private theorem Fallback.classes_eq_ok_iff {q : Request} {classes : String} :
    Fallback.classes q = .ok classes ↔ ∃ own, q.placeholder.element.classes q.theme = .ok own
      ∧ merge [q.theme.baseClasses, own] = classes :=
  map_eq_ok_iff

namespace ThemeRegistry

variable {r : ThemeRegistry} {name : Option String} {customizations : Members}
  {skipped : List String}

theorem reskin_eq_ok_iff {text page : String}
    (ht : r.customized name customizations = .ok (t, skipped)) :
    r.reskin text name customizations = .ok page
      ↔ ∃ s, Skin.ofTheme t = .ok s ∧ String.ofList (s.wear text.toList) = page := by
  rw [reskin_of_customized ht, Theme.reskin, map_eq_ok_iff]

/-- The class list of the fallback stays as it is exactly if none of its classes is exchanged for
another one, and then it does so at its place in a file as well. For a complete theme these can only
be base classes, and the backgrounds, radii and shadows of the element. -/
theorem reskin_classes_iff {q : Request} {classes : String}
    (ht : r.customized name customizations = .ok (q.theme, skipped))
    (hclasses : Fallback.classes q = .ok classes) :
    (r.reskin classes name customizations = .ok classes
        ↔ ∃ s, Skin.ofTheme q.theme = .ok s ∧ s.Keeps classes.toList)
    ∧ (r.reskin classes name customizations = .ok classes →
        ∀ (before after : String) (d d' : Char), Skin.isDelimiter d = true →
          Skin.isDelimiter d' = true →
          ∃ before' after', r.reskin before name customizations = .ok before'
            ∧ r.reskin after name customizations = .ok after'
            ∧ r.reskin (before ++ d.toString ++ classes ++ d'.toString ++ after) name customizations
              = .ok (before' ++ d.toString ++ classes ++ d'.toString ++ after'))
    ∧ (q.theme.isComplete = true → ∃ s own, Skin.ofTheme q.theme = .ok s
        ∧ q.placeholder.element.classes q.theme = .ok own
        ∧ (r.reskin classes name customizations = .ok classes
          ↔ (∀ τ ∈ lastWords (ofList q.theme.baseClasses.toList),
              (ofList own.toList).any (conflicts τ) = false → s.Keeps τ.raw.toList)
            ∧ q.placeholder.element.KeptBy q.theme s)) := by
  have hwear (s : Skin) :
      String.ofList (s.wear classes.toList) = classes ↔ s.Keeps classes.toList := by
    rw [← Skin.wear_eq_self_iff, ← String.toList_inj, String.toList_ofList]
  have hkept : r.reskin classes name customizations = .ok classes
      ↔ ∃ s, Skin.ofTheme q.theme = .ok s ∧ s.Keeps classes.toList := by
    simp only [reskin_eq_ok_iff ht, hwear]
  refine ⟨hkept, ?_, ?_⟩
  · intro hsame before after d d' hd hd'
    obtain ⟨s, hs, hkeeps⟩ := hkept.1 hsame
    refine ⟨.ofList (s.wear before.toList), .ofList (s.wear after.toList), ?_, ?_, ?_⟩
    · exact (reskin_eq_ok_iff ht).2 ⟨s, hs, rfl⟩
    · exact (reskin_eq_ok_iff ht).2 ⟨s, hs, rfl⟩
    · have hchars : (before ++ d.toString ++ classes ++ d'.toString ++ after).toList
          = before.toList ++ d :: (classes.toList ++ d' :: after.toList) := by simp
      refine (reskin_eq_ok_iff ht).2 ⟨s, hs, ?_⟩
      rw [hchars, Skin.wear_between hkeeps hd hd']
      apply String.toList_injective
      simp
  · intro hcomplete
    obtain ⟨s, hs⟩ := Skin.exists_ofTheme (Theme.hasSteps_of_isComplete hcomplete)
    obtain ⟨own, hown, hmerged⟩ := Fallback.classes_eq_ok_iff.1 hclasses
    refine ⟨s, own, hs, hown, ?_⟩
    rw [hkept, ← Element.keeps_iff hcomplete hs hown, ← hmerged, ← Skin.keeps_merge_iff, hs]
    simp only [Except.ok.injEq, exists_eq_left']

/-- A button under a theme. -/
def buttonUnder (t : Theme) : Request :=
  { placeholder := { kind := .tw, context := { tagName := some "button" } }
    userData := {}
    theme := t }

theorem reskin_classes_iff_cozy :
    builtin.customized (some "cozy") [] = .ok (Theme.cozy, [])
    ∧ Fallback.classes (buttonUnder Theme.cozy)
      = .ok (Element.buttonClasses "emerald-600" "emerald-700")
    ∧ Theme.cozy.isComplete = true
    ∧ ∃ s, Skin.ofTheme Theme.cozy = .ok s ∧ Element.button.KeptBy Theme.cozy s := by
  have ht : builtin.customized (some "cozy") [] = .ok (Theme.cozy, []) := rfl
  have hclasses : Fallback.classes (buttonUnder Theme.cozy)
      = .ok (Element.buttonClasses "emerald-600" "emerald-700") := by
    rfl
  have hcomplete : Theme.cozy.isComplete = true := by decide +kernel
  have hsame : builtin.reskin (Element.buttonClasses "emerald-600" "emerald-700") (some "cozy") []
      = .ok (Element.buttonClasses "emerald-600" "emerald-700") := by
    rfl
  obtain ⟨-, -, hkept⟩ := reskin_classes_iff (q := buttonUnder Theme.cozy) ht hclasses
  obtain ⟨s, own, hs, -, hiff⟩ := hkept hcomplete
  exact ⟨ht, hclasses, hcomplete, s, hs, (hiff.1 hsame).2⟩

/-- Two steps of the palette's blue for the primary ramp. -/
def twoBlues : Members :=
  [("colors", .obj [("primary", .obj [("600", .str "#2563eb"), ("700", .str "#1d4ed8")])])]

/-- A button whose two backgrounds are of one exchanged family has in the end the same colour under
the pointer as at rest. -/
theorem not_reskin_classes_blue :
    ∃ t, builtin.customized (some "modern") twoBlues = .ok (t, [])
      ∧ Fallback.classes (buttonUnder t) = .ok (Element.buttonClasses "blue-600" "blue-700")
      ∧ builtin.reskin (Element.buttonClasses "blue-600" "blue-700") (some "modern") twoBlues
        = .ok (Element.buttonClasses "blue-600" "blue-600")
      ∧ Element.buttonClasses "blue-600" "blue-600" ≠ Element.buttonClasses "blue-600" "blue-700" :=
  ⟨_, rfl, rfl, rfl, by decide +kernel⟩

end ThemeRegistry

end SiteTemplate
