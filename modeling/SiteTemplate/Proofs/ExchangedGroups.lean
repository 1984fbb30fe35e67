import SiteTemplate.Proofs.ExchangeForms
import SiteTemplate.Proofs.ThemeMerging
import SiteTemplate.Proofs.TokenParts

/-!
# The property of an exchanged class

The forms that a skin looks for are told from the characters alone, and so are the property groups
of utilities. The two agree: whatever a skin of a built-in theme puts in the place of a utility sets
the same property, also after its colours have been given other values.
-/

namespace SiteTemplate

open Text ClassToken

namespace ClassToken

variable {cs opacity : List Char}

private theorem isBaseColor_of_isColor (h : isColor cs = true) (hslash : '/' ∉ cs) :
    isBaseColor cs = true := by
  have hnoSlash := forall_bne_of_not_mem hslash
  rw [isColor, List.span_eq_takeWhile_dropWhile, List.takeWhile_eq_self_iff.2 hnoSlash,
    Bool.and_eq_true] at h
  exact h.1

private theorem isColor_append_opacity (h : isBaseColor cs = true) (hslash : '/' ∉ cs)
    (hopacity : Skin.isOpacityMark opacity = true) : isColor (cs ++ opacity) = true := by
  have hnoSlash := forall_bne_of_not_mem hslash
  have hstop := Skin.head?_opacity hopacity
  rw [isColor, List.span_eq_takeWhile_dropWhile, takeWhile_append_of_stop hnoSlash hstop,
    dropWhile_append_of_stop hnoSlash hstop]
  simp only [h, Bool.true_and]
  exact hopacity

theorem classify_eq {u : List Char} {rule : GroupRule} {after : List GroupRule} {group : String}
    (n : Nat) (hrules : groupRules.drop n = rule :: after)
    (hbefore : (groupRules.take n).findSome? (·.group? (core u)) = none)
    (hrule : rule.group? (core u) = some group) : classify u = some group := by
  have hclassify : classify u = groupRules.findSome? (·.group? (core u)) := rfl
  rw [hclassify, ← List.take_append_drop n groupRules, List.findSome?_append, hbefore,
    Option.none_or, hrules, List.findSome?_cons, hrule]

theorem group?_plainRule (stem : String) (tail : Tail) (group : String) (cs : List Char) :
    (plainRule stem tail group).group? (stem.toList ++ cs)
      = if tail.accepts cs then some group else none := by
  rw [GroupRule.group?, plainRule, after?_append]

theorem classify_color {stem : String} (hstem : stem ∈ Skin.colorStems) (h : isColor cs = true) :
    classify (stem.toList ++ '-' :: cs) = some (stem ++ "-color") := by
  have haccepts : Tail.color.accepts cs = true := h
  simp only [Skin.colorStems, List.mem_cons, List.not_mem_nil, or_false] at hstem
  rcases hstem with rfl | rfl | rfl
  · exact classify_background h
  · have hrule := group?_plainRule "text-" .color "text-color" cs
    rw [if_pos haccepts] at hrule
    exact classify_eq 2 rfl rfl hrule
  · have hrule := group?_plainRule "border-" .color "border-color" cs
    rw [if_pos haccepts] at hrule
    exact classify_eq 19 rfl rfl hrule

/-- The names of font weights. -/
def weightNames : List String :=
  ["thin", "extralight", "light", "normal", "medium", "semibold", "bold", "extrabold", "black"]

theorem classify_font {inner : List Char} (hne : inner ≠ []) (hline : '\n' ∉ inner) :
    classify ("font-[".toList ++ (inner ++ [']'])) = some "font-family" := by
  have hcore : core ("font-[".toList ++ (inner ++ [']']))
      = "font-".toList ++ '[' :: (inner ++ [']']) := rfl
  have hweight : (namesRule "font-" weightNames "font-weight").group?
      ("font-".toList ++ '[' :: (inner ++ [']'])) = none := by
    have hhead : ∀ name ∈ weightNames, name.toList.head? ≠ some '[' := by decide
    rw [namesRule, group?_plainRule, if_neg]
    rw [Tail.accepts, List.contains_iff_mem]
    intro hmem
    exact hhead _ hmem (by rw [String.toList_ofList]; rfl)
  have hbefore : (groupRules.take 6).findSome?
      (·.group? ("font-".toList ++ '[' :: (inner ++ [']']))) = none := by
    have htake : groupRules.take 6
        = groupRules.take 5 ++ [namesRule "font-" weightNames "font-weight"] := rfl
    have hstems : (groupRules.take 5).findSome?
        (·.group? ("font-".toList ++ '[' :: (inner ++ [']']))) = none := rfl
    rw [htake, List.findSome?_append, hstems, List.findSome?_singleton, hweight, Option.none_or]
  have hbrackets : Tail.brackets.accepts ('[' :: (inner ++ [']'])) = true := by
    simp [Tail.accepts, bracketed?, hne, hline]
  have hrule := group?_plainRule "font-" (.either (.oneOf ["sans", "serif", "mono"]) .brackets)
    "font-family" ('[' :: (inner ++ [']']))
  rw [Tail.accepts, hbrackets, Bool.or_true, if_pos rfl] at hrule
  rw [← hcore] at hbefore hrule
  exact classify_eq 6 rfl hbefore hrule

/-- The steps of radii that have a group. -/
def radiusNames : List String := ["none", "sm", "md", "lg", "xl", "2xl", "3xl", "full"]

/-- The steps of shadows that have a group. -/
def shadowNames : List String := ["sm", "md", "lg", "xl", "2xl", "inner", "none"]

theorem classify_radius {side : Option String} (hside : ∀ x ∈ side, x ∈ Skin.radiusSides)
    {step : String} (hstep : step ∈ radiusNames) :
    classify ("rounded".toList ++ (Skin.Form.sideChars side ++ '-' :: step.toList))
      = some (side.elim "radius" ("radius-" ++ ·)) := by
  have hall : ∀ step ∈ radiusNames,
      classify ("rounded-".toList ++ step.toList) = some "radius" := by
    decide
  have hsides : ∀ side ∈ Skin.radiusSides, ∀ step ∈ radiusNames,
      classify ("rounded-".toList ++ (side.toList ++ '-' :: step.toList))
        = some ("radius-" ++ side) := by
    decide
  cases side with
  | none => exact hall step hstep
  | some side => exact hsides side (hside side rfl) step hstep

theorem classify_shadow {step : String} (hstep : step ∈ shadowNames) :
    classify ("shadow-".toList ++ step.toList) = some "shadow" := by
  have hall : ∀ step ∈ shadowNames,
      classify ("shadow-".toList ++ step.toList) = some "shadow" := by
    decide
  exact hall step hstep

theorem classify_mark_append (important : Bool) (u : List Char) :
    classify (Skin.Form.mark important ++ u) = classify u := by
  cases important <;> rfl

end ClassToken

theorem IsColorName.isColor_append {name : String} {opacity : List Char} (h : IsColorName name)
    (hopacity : Skin.isOpacityMark opacity = true) : isColor (name.toList ++ opacity) = true := by
  have hslash : '/' ∉ name.toList := h.isBackground.not_mem (by decide)
  exact isColor_append_opacity (isBaseColor_of_isColor h.isBackground.isColor hslash) hslash hopacity

namespace Skin

variable {s : Skin} {v w w' : List Char}

/-- What makes a skin keep the property of all it exchanges: its colours have names, its font stands
on one line and has no colon, and its steps have groups and lead to such steps. -/
structure KeepsGroups (s : Skin) : Prop where
  primary : IsColorName s.primary
  secondary : IsColorName s.secondary
  accent : IsColorName s.accent
  font : ':' ∉ s.font.toList ∧ '\n' ∉ s.font.toList
  radius : ∀ step other, Entries.get? s.radiusSteps step = some other →
    step ∈ radiusNames ∧ other ∈ radiusNames
  shadow : ∀ step other, Entries.get? s.shadowSteps step = some other →
    step ∈ shadowNames ∧ other ∈ shadowNames

namespace KeepsGroups

theorem isColorName {stem family color : String} (hs : s.KeepsGroups)
    (h : s.familyColor? stem family = some color) : IsColorName color := by
  unfold familyColor? at h
  split at h
  case h_4 => cases h
  all_goals
    obtain ⟨-, hcolor⟩ := Option.ite_none_right_eq_some.1 h
    obtain rfl := Option.some.inj hcolor
  · exact hs.primary
  · exact hs.secondary
  · exact hs.accent

private theorem classify_exchanged {f : Form} (hs : s.KeepsGroups) (hf : f.IsProper)
    (hv : f.exchanged? s = some v) : classify v = classify f.chars := by
  cases f with
  | color important stem family step opacity =>
    obtain ⟨hstem, hfamily, hstep, hopacity⟩ := hf
    obtain ⟨color, hcolor, rfl⟩ := Option.map_eq_some_iff.1 hv
    have hfamilies : ∀ family ∈ exchangedFamilies, family ∈ Palette.families.map (·.1) := by
      decide
    obtain ⟨ramp, hramp, rfl⟩ := List.mem_map.1 (hfamilies family hfamily)
    have holdName : IsColorName (ramp.1 ++ "-" ++ step) := .step hramp hstep
    have hold := classify_color hstem (holdName.isColor_append hopacity)
    have hnew := classify_color hstem ((hs.isColorName hcolor).isColor_append hopacity)
    have hchars : (ramp.1 ++ "-" ++ step).toList ++ opacity
        = ramp.1.toList ++ '-' :: (step.toList ++ opacity) := by simp
    rw [hchars] at hold
    rw [Form.chars_color, classify_mark_append, classify_mark_append, hold, hnew]
  | font name =>
    obtain ⟨-, hfont⟩ := Option.ite_none_left_eq_some.1 hv
    obtain rfl := Option.some.inj hfont
    have hnames : ∀ name ∈ ["Inter", "Poppins"], name.toList ≠ [] ∧ '\n' ∉ name.toList := by decide
    have hold := classify_font (hnames name hf).1 (hnames name hf).2
    have hquoted : '\n' ∉ '\'' :: (s.font.toList ++ ['\'']) := by
      simp [hs.font.2]
    have hnew := classify_font (List.cons_ne_nil _ _) hquoted
    have hchars : "font-['".toList ++ (s.font.toList ++ "']".toList)
        = "font-[".toList ++ ('\'' :: (s.font.toList ++ ['\'']) ++ [']']) := by simp
    rw [Form.chars_font, hchars, hold, hnew]
  | radius side step =>
    obtain ⟨other, hother, rfl⟩ := Option.map_eq_some_iff.1 hv
    obtain ⟨hold, hnew⟩ := hs.radius _ _ hother
    have hchars := classify_radius hf.1 hold
    rw [@String.toList_ofList step] at hchars
    rw [Form.chars_radius, hchars, classify_radius hf.1 hnew]
  | shadow step =>
    obtain ⟨other, hother, rfl⟩ := Option.map_eq_some_iff.1 hv
    obtain ⟨hold, hnew⟩ := hs.shadow _ _ hother
    have hchars := classify_shadow hold
    rw [@String.toList_ofList step] at hchars
    rw [Form.chars_shadow, hchars, classify_shadow hnew]

/-- The characters of classes without brackets around a font, decimal digits of other scripts
apart. -/
def classChars : List Char := '!' :: '/' :: nameChars

/-- All that is exchanged but fonts is made of the characters of classes. -/
theorem forall_mem_exchanged {f : Form} (hs : s.KeepsGroups) (hf : f.IsProper)
    (hv : f.exchanged? s = some v) (hfont : ∀ name, f ≠ .font name) :
    ∀ c ∈ v, c ∈ classChars ∨ isDecimalDigit c = true := by
  cases f with
  | color important stem family step opacity =>
    obtain ⟨hstem, -, -, hopacity⟩ := hf
    obtain ⟨color, hcolor, rfl⟩ := Option.map_eq_some_iff.1 hv
    have hmark : Form.mark important ⊆ classChars := by cases important <;> decide
    have hstems : ∀ stem ∈ colorStems, stem.toList ⊆ classChars := by decide
    have hname := (hs.isColorName hcolor).isBackground.chars
    have hdigits : ∀ c ∈ opacity, c ∈ classChars ∨ isDecimalDigit c = true := by
      rcases isOpacityMark_iff.1 hopacity with rfl | ⟨digits, rfl, -, -, hdigits⟩
      · exact nofun
      · exact List.forall_mem_cons.2 ⟨.inl (by decide), fun c hc => .inr (hdigits c hc)⟩
    simp only [List.forall_mem_append, List.forall_mem_cons]
    exact ⟨fun c hc => .inl (hmark hc), fun c hc => .inl (hstems stem hstem hc), .inl (by decide),
      fun c hc => .inl (List.mem_cons_of_mem _ (List.mem_cons_of_mem _ (hname hc))), hdigits⟩
  | font name => exact absurd rfl (hfont name)
  | radius side step =>
    obtain ⟨other, hother, rfl⟩ := Option.map_eq_some_iff.1 hv
    have hsides : ∀ side ∈ radiusSides, side.toList ⊆ classChars := by decide
    have hnames : ∀ name ∈ radiusNames, name.toList ⊆ classChars := by decide
    have hstem : "rounded".toList ⊆ classChars := by decide
    have hside : Form.sideChars side ⊆ classChars := by
      cases side with
      | none => exact List.nil_subset _
      | some side => exact List.cons_subset.2 ⟨by decide, hsides side (hf.1 side rfl)⟩
    simp only [List.forall_mem_append, List.forall_mem_cons]
    exact ⟨fun c hc => .inl (hstem hc), fun c hc => .inl (hside hc), .inl (by decide),
      fun c hc => .inl (hnames other (hs.radius _ _ hother).2 hc)⟩
  | shadow step =>
    obtain ⟨other, hother, rfl⟩ := Option.map_eq_some_iff.1 hv
    have hnames : ∀ name ∈ shadowNames, "shadow-".toList ++ name.toList ⊆ classChars := by decide
    exact fun c hc => .inl (hnames other (hs.shadow _ _ hother).2 hc)

private theorem colon_not_mem_exchanged {f : Form} (hs : s.KeepsGroups) (hf : f.IsProper)
    (hv : f.exchanged? s = some v) : ':' ∉ v := by
  by_cases hfont : ∃ name, f = .font name
  · obtain ⟨name, rfl⟩ := hfont
    obtain ⟨-, hquoted⟩ := Option.ite_none_left_eq_some.1 hv
    obtain rfl := Option.some.inj hquoted
    exact List.not_mem_append (by decide) (List.not_mem_append hs.font.1 (by decide))
  · intro hmem
    rcases hs.forall_mem_exchanged hf hv (not_exists.1 hfont) _ hmem with h | h
    · exact absurd h (by decide)
    · exact absurd h (by decide)

private theorem of_becomes (hs : s.KeepsGroups) (h : s.Becomes w w') :
    (splitVariants w').1 = (splitVariants w).1
      ∧ classify (splitVariants w').2 = classify (splitVariants w).2 := by
  cases h with
  | exchanged hf hchars hv =>
    have hcolon := hs.colon_not_mem_exchanged hf hv
    rw [splitVariants_exchange w (noCut_of_not_mem hcolon), ← hchars]
    exact ⟨rfl, hs.classify_exchanged hf hv⟩
  | kept => exact ⟨rfl, rfl⟩

end KeepsGroups

theorem eq_of_ofTheme {t : Theme} (h : ofTheme t = .ok s) :
    ∃ primary secondary accent, t.color .primary 600 = .ok primary
      ∧ t.color .secondary 500 = .ok secondary ∧ t.color .accent 500 = .ok accent
      ∧ s = { primary := Palette.colorName primary
              secondary := Palette.colorName secondary
              accent := Palette.colorName accent
              font := t.primaryFont
              radiusSteps := t.radiusSteps
              shadowSteps := t.shadowSteps } := by
  simp only [ofTheme, bind_eq_ok_iff] at h
  obtain ⟨primary, hprimary, secondary, hsecondary, accent, haccent, hskin⟩ := h
  exact ⟨primary, secondary, accent, hprimary, hsecondary, haccent, (Except.ok.inj hskin).symm⟩

end Skin

/-- Customizations that set no font and give the steps of ramps hexadecimal colours only. -/
structure Customization.OnlyRecolors (c : Members) : Prop where
  fonts : fontSettings c "font_family" Json.text? = []
  colors : ∀ g, ∀ e ∈ colorSettings c g, isHexColor e.2 = true

namespace Theme

variable {t t' : Theme} {c : Members} {skipped : List String}

theorem isColorName_of_customized {g : ColorGroup} {step : Int} {color : String}
    (ht : t.isComplete = true) (hc : Customization.OnlyRecolors c)
    (h : t.customized c = .ok (t', skipped)) (hcolor : t'.color g step = .ok color) :
    IsColorName (Palette.colorName color) := by
  obtain ⟨x, hread, hoverride, -⟩ := customized_eq_ok_iff.1 h
  have hget := ((isOverlay_of_override hread hoverride).ramp g).get?_eq step
  rw [color_eq_ok_iff.1 hcolor, eq_comm, Option.or_eq_some_iff] at hget
  apply isColorName_colorName
  rcases hget with hset | ⟨-, hold⟩
  · have hmem := Entries.mem_of_get?_eq_some hset
    exact hc.colors g _ (List.mem_reverse.1 hmem)
  · exact isHexColor_of_get? ht hold

private theorem keepsSteps_builtin : ∀ t ∈ builtin,
    (':' ∉ t.primaryFont.toList ∧ '\n' ∉ t.primaryFont.toList)
      ∧ (∀ e ∈ t.radiusSteps, e.1 ∈ radiusNames ∧ e.2 ∈ radiusNames)
      ∧ ∀ e ∈ t.shadowSteps, e.1 ∈ shadowNames ∧ e.2 ∈ shadowNames := by
  decide

/-- Other colours leave a theme its font. -/
theorem primaryFont_of_customized (hc : Customization.OnlyRecolors c)
    (h : t.customized c = .ok (t', skipped)) : t'.primaryFont = t.primaryFont := by
  obtain ⟨x, hread, hoverride, -⟩ := customized_eq_ok_iff.1 h
  rw [primaryFont, (isOverlay_of_override hread hoverride).fontFamily.get?_eq, hc.fonts,
    Entries.last?_nil, Option.none_or, primaryFont]

/-- The skin of a built-in theme in other colours keeps the property of all it exchanges. -/
theorem exists_keepsGroups (ht : t ∈ builtin) (hc : Customization.OnlyRecolors c)
    (h : t.customized c = .ok (t', skipped)) :
    ∃ s, Skin.ofTheme t' = .ok s ∧ s.KeepsGroups := by
  have hcomplete := isComplete_builtin t ht
  obtain ⟨hfont, hradius, hshadow⟩ := keepsSteps_builtin t ht
  obtain ⟨s, hs⟩ := Skin.exists_ofTheme ((hasSteps_of_isComplete hcomplete).customized h)
  obtain ⟨primary, secondary, accent, hprimary, hsecondary, haccent, hskin⟩ :=
    Skin.eq_of_ofTheme hs
  obtain ⟨x, hread, hoverride, -⟩ := customized_eq_ok_iff.1 h
  have hoverlay := isOverlay_of_override hread hoverride
  have hradii : ∀ step other, Entries.get? t'.radiusSteps step = some other →
      step ∈ radiusNames ∧ other ∈ radiusNames := by
    intro step other hother
    rw [hoverlay.radiusSteps] at hother
    exact hradius (step, other) (Entries.mem_of_get?_eq_some hother)
  have hshadows : ∀ step other, Entries.get? t'.shadowSteps step = some other →
      step ∈ shadowNames ∧ other ∈ shadowNames := by
    intro step other hother
    rw [hoverlay.shadowSteps] at hother
    exact hshadow (step, other) (Entries.mem_of_get?_eq_some hother)
  rw [← primaryFont_of_customized hc h] at hfont
  have hprimaryName := isColorName_of_customized hcomplete hc h hprimary
  have hsecondaryName := isColorName_of_customized hcomplete hc h hsecondary
  have haccentName := isColorName_of_customized hcomplete hc h haccent
  refine ⟨s, hs, ?_⟩
  rw [hskin]
  -- The record is looked into first, so that no name of a colour is unfolded.
  constructor <;> dsimp only
  case primary => exact hprimaryName
  case secondary => exact hsecondaryName
  case accent => exact haccentName
  case font => exact hfont
  case radius => exact hradii
  case shadow => exact hshadows

/-- A built-in theme, also in other hexadecimal colours, exchanges the utility of a token for one
that sets the same property, and leaves its variants as they are. -/
theorem token_keeps_property (ht : t ∈ builtin) (hc : Customization.OnlyRecolors c)
    (h : t.customized c = .ok (t', skipped)) : ∃ s, Skin.ofTheme t' = .ok s ∧ ∀ w : String,
      (splitVariants (s.token w.toList)).1 = (splitVariants w.toList).1
      ∧ classify (splitVariants (s.token w.toList)).2 = classify (splitVariants w.toList).2
      ∧ (Skin.IsRun w.toList → t'.reskin w = .ok (.ofList (s.token w.toList))) := by
  obtain ⟨s, hs, hkeeps⟩ := exists_keepsGroups ht hc h
  refine ⟨s, hs, fun w => ?_⟩
  obtain ⟨hvariants, hgroup⟩ := hkeeps.of_becomes (Skin.token_eq_iff.1 rfl)
  refine ⟨hvariants, hgroup, fun hw => ?_⟩
  rw [reskin, hs, ← Skin.wear_eq_token hw]
  rfl

/-- Another primary colour, in three digits. -/
def shortBlue : Members := [("colors", .obj [("primary", .obj [("600", .str "#AbC")])])]

theorem token_keeps_property_shortBlue :
    cozy ∈ builtin ∧ Customization.OnlyRecolors shortBlue ∧ ∃ t' s,
      cozy.customized shortBlue = .ok (t', []) ∧ Skin.ofTheme t' = .ok s
      ∧ Skin.IsRun "md:hover:!text-blue-50/๑".toList
      ∧ t'.reskin "md:hover:!text-blue-50/๑" = .ok "md:hover:!text-[#abc]/๑"
      ∧ (splitVariants (s.token "md:hover:!text-blue-50/๑".toList)).1 = "md:hover:".toList
      ∧ classify (splitVariants (s.token "md:hover:!text-blue-50/๑".toList)).2
        = some "text-color" := by
  have ht : cozy ∈ builtin := by simp [builtin]
  have hc : Customization.OnlyRecolors shortBlue :=
    { fonts := rfl
      colors := fun g => by cases g <;> decide }
  have hrun : Skin.IsRun "md:hover:!text-blue-50/๑".toList := Skin.isRun_of_any (by decide)
  obtain ⟨t', hcustom, hreskin⟩ : ∃ t', cozy.customized shortBlue = .ok (t', [])
      ∧ t'.reskin "md:hover:!text-blue-50/๑" = .ok "md:hover:!text-[#abc]/๑" := ⟨_, rfl, rfl⟩
  obtain ⟨s, hs, htoken⟩ := token_keeps_property ht hc hcustom
  obtain ⟨hvariants, hgroup, -⟩ := htoken "md:hover:!text-blue-50/๑"
  have hold : classify (splitVariants "md:hover:!text-blue-50/๑".toList).2 = some "text-color" := by
    decide +kernel
  exact ⟨ht, hc, t', s, hcustom, hs, hrun, hreskin, hvariants, hgroup.trans hold⟩

end Theme

end SiteTemplate
