import Mathlib.Data.List.Nodup
import SiteTemplate.Proofs.Declarations
import SiteTemplate.Proofs.FallbackClasses
import SiteTemplate.Proofs.RegistryRuns
import SiteTemplate.Proofs.Traversal

/-!
# Stylesheets of customized themes

A stylesheet declares custom properties in a list, and the forty colours of the ramps come first in
it. What may keep it from being written are the colours by meaning, which a theme may hold in any
form. Written texts are not escaped: a reader who cuts a stylesheet at its semicolons and braces
finds what was declared if no text of the theme has such a character.
-/

namespace SiteTemplate

open Text

/-- The custom property of a place in the ramps. -/
def colorProperty (p : ColorGroup × Int) : String := "color-" ++ p.1.name ++ "-" ++ toString p.2

/-- The name of a custom property with the mark of one. -/
def customName (property : String) : String := "--" ++ property

private theorem customName_injective : Function.Injective customName :=
  fun _ _ h => (String.append_right_inj _).1 h

namespace Theme

variable {t t' : Theme} {p : ColorGroup × Int} {css : String}

/-- The colour at a place in the ramps; empty if there is none. -/
def colorAt (t : Theme) (p : ColorGroup × Int) : String :=
  (Entries.get? (t.colors.ramp p.1) p.2).getD ""

/-- The custom properties of a scale. -/
def scaleProperties (name : String) (scale : Entries String String) : List (String × String) :=
  scale.map fun (key, value) => (name ++ "-" ++ key, value)

/-- All custom properties but the colours. -/
def tokenProperties (t : Theme) : List (String × String) :=
  [("font-family-primary", "'" ++ t.font "primary" "system-ui" ++ "', system-ui, sans-serif"),
    ("font-family-secondary", "'" ++ t.font "secondary" "system-ui" ++ "', system-ui, sans-serif"),
    ("font-family-mono", "'" ++ t.font "mono" "monospace" ++ "', monospace")]
    ++ scaleProperties "spacing" t.spacing ++ scaleProperties "radius" t.borderRadius
    ++ scaleProperties "shadow" t.shadows

/-- The custom properties of a theme in the order in which they are declared. -/
def properties (t : Theme) : List (String × String) :=
  colorPlaces.map (fun p => (colorProperty p, t.colorAt p)) ++ t.tokenProperties

/-- The stems of the names of custom properties that are no colours. -/
def tokenStems : List String := ["font-family-", "spacing-", "radius-", "shadow-"]

theorem exists_stem_of_mem_tokenProperties {e : String × String} (he : e ∈ t.tokenProperties) :
    ∃ stem ∈ tokenStems, ∃ rest, e.1 = stem ++ rest := by
  have hscale {name : String} {scale : Entries String String} (h : e ∈ scaleProperties name scale) :
      ∃ rest, e.1 = name ++ "-" ++ rest := by
    obtain ⟨⟨key, value⟩, -, rfl⟩ := List.mem_map.1 h
    exact ⟨key, rfl⟩
  simp only [tokenProperties, List.mem_append, List.mem_cons, List.not_mem_nil, or_false] at he
  rcases he with (((rfl | rfl | rfl) | h) | h) | h
  · exact ⟨"font-family-", by decide, "primary", rfl⟩
  · exact ⟨"font-family-", by decide, "secondary", rfl⟩
  · exact ⟨"font-family-", by decide, "mono", rfl⟩
  · exact ⟨"spacing-", by decide, hscale h⟩
  · exact ⟨"radius-", by decide, hscale h⟩
  · exact ⟨"shadow-", by decide, hscale h⟩

private theorem tokenDeclarations_eq (t : Theme) :
    t.tokenDeclarations = t.tokenProperties.map fun e => declaration e.1 e.2 := by
  simp [tokenDeclarations, tokenProperties, scaleDeclarations, scaleProperties, Function.comp_def]

theorem color_eq_colorAt (h : t.HasSteps) (hp : p ∈ colorPlaces) :
    t.color p.1 p.2 = .ok (t.colorAt p) := by
  obtain ⟨g, -, hgroup⟩ := List.mem_flatMap.1 hp
  obtain ⟨step, hstep, rfl⟩ := List.mem_map.1 hgroup
  obtain ⟨c, hc⟩ := Option.isSome_iff_exists.1 (h g step hstep)
  rw [color_eq_ok_iff, colorAt, hc, Option.getD_some]

theorem colorDeclarations_eq (h : t.HasSteps) : t.colorDeclarations
    = .ok (colorPlaces.map fun p => declaration (colorProperty p) (t.colorAt p)) := by
  refine mapM_eq_ok_map fun p hp => ?_
  have hcolor := color_eq_colorAt h hp
  obtain ⟨g, step⟩ := p
  simp only [hcolor]
  rfl

theorem nodup_colorProperties : (colorPlaces.map colorProperty).Nodup := by decide

/-- Where every place is listed under the name of its custom property, each of them is listed
once. -/
theorem filter_colorPlaces {name : String → String} (hname : Function.Injective name)
    (value : ColorGroup × Int → String) (hp : p ∈ colorPlaces) :
    (colorPlaces.map fun x => (name (colorProperty x), value x)).filter
        (·.1 == name (colorProperty p))
      = [(name (colorProperty p), value p)] := by
  -- Equal names are equal places, and no place is listed twice.
  have hinj := List.inj_on_of_nodup_map nodup_colorProperties
  have hsame : colorPlaces.filter (fun x => name (colorProperty x) == name (colorProperty p))
      = colorPlaces.filter (· == p) := by
    refine List.filter_congr fun x hx => ?_
    rw [Bool.eq_iff_iff, beq_iff_eq, beq_iff_eq]
    exact ⟨fun h => hinj hx hp (hname h), fun h => by rw [h]⟩
  have hnodup : colorPlaces.Nodup := nodup_colorProperties.of_map
  rw [List.filter_beq, List.count_eq_one_of_mem hnodup hp, List.replicate_one] at hsame
  rw [List.filter_map, Function.comp_def, hsame]
  rfl

private theorem colorProperty_ne {stem rest : String} (hstem : stem ∈ tokenStems) :
    colorProperty p ≠ stem ++ rest := by
  intro h
  have hstems : ∀ stem ∈ tokenStems, stem.toList.head? ≠ some 'c' ∧ stem.toList ≠ [] := by decide
  have hc : (colorProperty p).toList.head? = some 'c' := by simp [colorProperty]
  rw [h, String.toList_append, List.head?_append_of_ne_nil _ (hstems stem hstem).2] at hc
  exact (hstems stem hstem).1 hc

private theorem filter_properties (t : Theme) (hp : p ∈ colorPlaces) :
    t.properties.filter (·.1 == colorProperty p) = [(colorProperty p, t.colorAt p)] := by
  have hcolors := filter_colorPlaces Function.injective_id t.colorAt hp
  have htokens : t.tokenProperties.filter (·.1 == colorProperty p) = [] := by
    refine List.filter_eq_nil_iff.2 fun e he => ?_
    obtain ⟨stem, hstem, rest, hrest⟩ := exists_stem_of_mem_tokenProperties he
    rw [beq_iff_eq, hrest]
    exact fun h => colorProperty_ne hstem h.symm
  rw [properties, List.filter_append, htokens, List.append_nil]
  exact hcolors

/-- What is shown of a value, or what stands in for it. -/
def shown (ms : Members) (key standIn : String) : String :=
  ((Entries.get? ms key).map Json.display).getD standIn

/-- The members of the colours of text; none if they are no object. -/
def textMembers (t : Theme) : Members :=
  match Entries.get? t.colors.semantic "text" with
  | some (.obj ms) => ms
  | _ => []

/-- The colour behind the page. -/
def background (t : Theme) : String := shown t.colors.semantic "background" "#ffffff"

/-- The colour of text. -/
def textColor (t : Theme) : String := shown t.textMembers "primary" "#111827"

/-- The colours of text, if there are any, are an object, and no whole number in the two colours of
the body has too many digits to be written. -/
structure ShowsColors (t : Theme) : Prop where
  text : ∀ v, Entries.get? t.colors.semantic "text" = some v → v.isTruthy = true →
    ∃ ms, v = .obj ms
  background_fits : ∀ v, Entries.get? t.colors.semantic "background" = some v → v.fits = true
  text_fits : ∀ v, Entries.get? t.textMembers "primary" = some v → v.fits = true

private theorem shownOr_eq_ok_iff {ms : Members} {key standIn text : String} :
    shownOr ms key standIn = .ok text ↔
      (∀ v, Entries.get? ms key = some v → v.fits = true) ∧ shown ms key standIn = text := by
  unfold shownOr shown
  cases Entries.get? ms key with
  | none => simp
  | some v =>
    by_cases h : v.fits = true
    · simp [h]
    · simp [h]

private theorem textColors_eq_ok_iff {ms : Members} : t.textColors = .ok ms ↔
    (∀ v, Entries.get? t.colors.semantic "text" = some v → v.isTruthy = true → ∃ ms, v = .obj ms)
      ∧ t.textMembers = ms := by
  unfold textColors textMembers
  cases hentry : Entries.get? t.colors.semantic "text" with
  | none => simp
  | some v =>
    by_cases hobj : ∃ ms, v = .obj ms
    · obtain ⟨ms, rfl⟩ := hobj
      simp
    · cases v with
      | obj ms => exact absurd ⟨ms, rfl⟩ hobj
      | _ =>
        simp only [Option.some.injEq, forall_eq', reduceCtorEq, exists_false, imp_false,
          Bool.not_eq_true]
        split
        · next h => simp [h]
        · next h => simp [h]

theorem shownOr_eq_error {ms : Members} {key standIn : String} {e : ThemeError}
    (h : shownOr ms key standIn = .error e) : e = .unwritable := by
  unfold shownOr at h
  split at h
  · split at h
    · cases h
    · exact (Except.error.inj h).symm
  · cases h

private theorem textColors_eq_error {e : ThemeError} (h : t.textColors = .error e) :
    e = .badTextColors := by
  unfold textColors at h
  split at h
  · cases h
  · split at h
    · exact (Except.error.inj h).symm
    · cases h
  · cases h

/-- The text of a stylesheet. -/
def sheet (title : String) (properties : List (String × String)) (background text : String) :
    String :=
  "\n".intercalate
    (["/* " ++ title ++ " Theme */", ":root \x7b"]
      ++ properties.map (fun e => declaration e.1 e.2)
      ++ ["\x7d", "", "body \x7b", "  font-family: var(--font-family-primary);",
        "  background-color: " ++ background ++ ";", "  color: " ++ text ++ ";", "\x7d", ""])

theorem stylesheet_eq_ok_iff (h : t.HasSteps) : t.stylesheet = .ok css ↔
    t.ShowsColors ∧ css = sheet t.title t.properties t.background t.textColor := by
  have hlines : t.properties.map (fun e => declaration e.1 e.2)
      = colorPlaces.map (fun p => declaration (colorProperty p) (t.colorAt p))
        ++ t.tokenDeclarations := by
    rw [properties, List.map_append, List.map_map, tokenDeclarations_eq]
    rfl
  simp only [stylesheet, colorDeclarations_eq h, bind_eq_ok_iff, shownOr_eq_ok_iff,
    textColors_eq_ok_iff, Except.ok.injEq, exists_eq_left', pure, Except.pure, sheet, hlines]
  constructor
  · rintro ⟨_, ⟨hbackground, rfl⟩, _, ⟨htext, rfl⟩, _, ⟨hprimary, rfl⟩, rfl⟩
    exact ⟨⟨htext, hbackground, hprimary⟩, by rw [List.append_assoc]; rfl⟩
  · rintro ⟨⟨htext, hbackground, hprimary⟩, rfl⟩
    exact ⟨_, ⟨hbackground, rfl⟩, _, ⟨htext, rfl⟩, _, ⟨hprimary, rfl⟩,
      by rw [List.append_assoc]; rfl⟩

private theorem stylesheet_eq_error (h : t.HasSteps) {e : ThemeError} (he : t.stylesheet = .error e)
    :
    e = .badTextColors ∨ e = .unwritable := by
  simp only [stylesheet, colorDeclarations_eq h, bind_eq_error_iff] at he
  rcases he with he | ⟨_, -, he | ⟨_, -, he | ⟨_, -, he | ⟨_, -, he⟩⟩⟩⟩
  · cases he
  · exact .inr (shownOr_eq_error he)
  · exact .inl (textColors_eq_error he)
  · exact .inr (shownOr_eq_error he)
  · cases he

end Theme

private theorem toList_intercalate_append {rest : List String} (hrest : rest ≠ [])
    (lines : List String) :
    ("\n".intercalate (lines ++ rest)).toList
      = lines.flatMap (fun line => line.toList ++ ['\n']) ++ ("\n".intercalate rest).toList := by
  induction lines with
  | nil => rfl
  | cons line lines ih =>
    have hmore : lines ++ rest ≠ [] := by simp [hrest]
    rw [List.cons_append, String.intercalate_cons_of_ne_nil hmore, String.toList_append, ih]
    simp

private theorem isName_customName_color :
    ∀ p ∈ Theme.colorPlaces, IsName (customName (colorProperty p)) := by
  have hgroups : ∀ g ∈ ColorGroup.all, ∀ c ∈ g.name.toList, isNameChar c = true := by decide
  have hsteps : ∀ step ∈ Palette.steps, ∀ c ∈ (toString step).toList, isNameChar c = true := by
    decide
  intro p hp
  obtain ⟨g, hg, hgroup⟩ := List.mem_flatMap.1 hp
  obtain ⟨step, hstep, rfl⟩ := List.mem_map.1 hgroup
  refine ⟨by simp [customName], ?_⟩
  simp only [customName, colorProperty, String.toList_append, List.forall_mem_append]
  exact ⟨by decide, ⟨⟨by decide, hgroups g hg⟩, by decide⟩, hsteps step hstep⟩

/-- Beginnings of parts that declare no colour of a ramp. -/
def otherStems : List String :=
  ["/*", "font-family", "background-color", "color"] ++ Theme.tokenStems.map customName

theorem filter_declarations_of_stem {p : ColorGroup × Int} {stem rest : String}
    (hstem : stem ∈ otherStems) (hplain : IsPlain rest) :
    (declarations (stem ++ rest).toList).filter (·.1 == customName (colorProperty p)) = [] := by
  have hstems : ∀ stem ∈ otherStems, IsName stem
      ∧ ¬ stem.toList <+: "--color-".toList ∧ ¬ "--color-".toList <+: stem.toList := by decide
  have hcolor : "--color-".toList <+: (customName (colorProperty p)).toList := by
    refine ⟨(p.1.name ++ "-" ++ toString p.2).toList, ?_⟩
    simp [customName, colorProperty]
  exact filter_declarations_eq_nil (hstems stem hstem).1 hplain (hstems stem hstem).2 hcolor

namespace Theme

variable {t : Theme} {p : ColorGroup × Int}

/-- What declares a custom property. -/
def propertyPart (e : String × String) : String := customName e.1 ++ ": " ++ e.2

/-- The rule of the body, after the end of the custom properties. -/
def bodyChars (background text : String) : List Char :=
  '\x7d' :: '\n' :: ("\nbody ".toList ++ '\x7b' :: '\n' ::
    (' ' :: ' ' :: "font-family: var(--font-family-primary)".toList ++ ';' :: '\n' ::
      (' ' :: ' ' :: ("background-color" ++ (": " ++ background)).toList ++ ';' :: '\n' ::
        (' ' :: ' ' :: ("color" ++ (": " ++ text)).toList ++ ';' :: '\n' :: ['\x7d', '\n']))))

private theorem toList_sheet (title : String) (properties : List (String × String))
    (background text : String) : (sheet title properties background text).toList
      = ("/*" ++ (" " ++ title ++ " Theme */\n:root ")).toList ++ '\x7b' :: '\n' ::
        (properties.flatMap (fun e => ' ' :: ' ' :: (propertyPart e).toList ++ [';', '\n'])
          ++ bodyChars background text) := by
  -- The last line is empty, so that every other line has a line end behind it.
  have hlines := toList_intercalate_append (List.cons_ne_nil "" [])
    (["/* " ++ title ++ " Theme */", ":root \x7b"]
      ++ properties.map (fun e => declaration e.1 e.2)
      ++ ["\x7d", "", "body \x7b", "  font-family: var(--font-family-primary);",
        "  background-color: " ++ background ++ ";", "  color: " ++ text ++ ";", "\x7d"])
  rw [List.append_assoc] at hlines
  rw [sheet]
  refine hlines.trans ?_
  simp [List.flatMap_append, List.flatMap_map, declaration, propertyPart, customName, bodyChars]

private theorem declarations_properties (properties : List (String × String)) (rest : List Char) :
    declarations (properties.flatMap (fun e => ' ' :: ' ' :: (propertyPart e).toList ++ [';', '\n'])
        ++ rest)
      = properties.flatMap (fun e => declarations (propertyPart e).toList) ++ declarations rest := by
  induction properties with
  | nil => rfl
  | cons e properties ih =>
    rw [List.flatMap_cons, List.flatMap_cons, List.append_assoc, List.append_assoc,
      List.append_assoc, ← ih, List.cons_append, List.cons_append, declarations_indent]
    exact declarations_line (by decide) _ _

/-- The texts that a theme puts into its stylesheet. -/
def writtenTexts (t : Theme) : List String :=
  [t.title, t.background, t.textColor] ++ colorPlaces.map t.colorAt
    ++ t.tokenProperties.flatMap fun e => [e.1, e.2]

private theorem declarations_colors (hplain : ∀ text ∈ t.writtenTexts, IsPlain text) :
    (colorPlaces.map fun p => (colorProperty p, t.colorAt p)).flatMap
        (fun e => declarations (propertyPart e).toList)
      = colorPlaces.map fun p => (customName (colorProperty p), sheetValue (t.colorAt p).toList) := by
  rw [List.flatMap_map, List.map_eq_flatMap]
  refine List.flatMap_congr fun p hp => ?_
  have hmem : t.colorAt p ∈ t.writtenTexts :=
    List.mem_append_left _ (List.mem_append_right _ (List.mem_map_of_mem hp))
  exact declarations_declaration (isName_customName_color p hp) (hplain _ hmem)

private theorem filter_declarations_token (hplain : ∀ text ∈ t.writtenTexts, IsPlain text)
    {e : String × String} (he : e ∈ t.tokenProperties) :
    (declarations (propertyPart e).toList).filter (·.1 == customName (colorProperty p)) = [] := by
  obtain ⟨stem, hstem, rest, hrest⟩ := exists_stem_of_mem_tokenProperties he
  have hmem : [e.1, e.2] ⊆ t.writtenTexts := fun text htext =>
    List.mem_append_right _ (List.mem_flatMap.2 ⟨e, he, htext⟩)
  have hname : IsPlain e.1 := hplain _ (hmem List.mem_cons_self)
  have hvalue : IsPlain e.2 := hplain _ (hmem (by simp))
  have hpart : propertyPart e = customName stem ++ (rest ++ (": " ++ e.2)) := by
    simp [propertyPart, customName, hrest, String.append_assoc]
  rw [hrest, isPlain_append] at hname
  rw [hpart]
  exact filter_declarations_of_stem (List.mem_append_right _ (List.mem_map_of_mem hstem))
    (isPlain_append.2 ⟨hname.2, isPlain_append.2 ⟨by decide, hvalue⟩⟩)

private theorem filter_declarations_body {background text : String}
    (hbackground : IsPlain background)
    (htext : IsPlain text) :
    (declarations (bodyChars background text)).filter (·.1 == customName (colorProperty p)) = [] := by
  have hend : endsPart ';' = true ∧ endsPart '\x7b' = true ∧ endsPart '\x7d' = true := by decide
  have hclose (cs : List Char) : declarations ('\x7d' :: '\n' :: cs) = declarations cs :=
    declarations_line hend.2.2 [] cs
  have hselector : declarations "\nbody ".toList = [] := by decide
  have hnothing : declarations [] = [] := rfl
  have hfont : (declarations ("font-family" ++ ": var(--font-family-primary)").toList).filter
      (·.1 == customName (colorProperty p)) = [] :=
    filter_declarations_of_stem (by decide) (by decide)
  have hback : (declarations ("background-color" ++ (": " ++ background)).toList).filter
      (·.1 == customName (colorProperty p)) = [] :=
    filter_declarations_of_stem (by decide) (isPlain_append.2 ⟨by decide, hbackground⟩)
  have hcolor : (declarations ("color" ++ (": " ++ text)).toList).filter
      (·.1 == customName (colorProperty p)) = [] :=
    filter_declarations_of_stem (by decide) (isPlain_append.2 ⟨by decide, htext⟩)
  rw [bodyChars, hclose, declarations_line hend.2.1, declarations_line hend.1,
    declarations_line hend.1, declarations_line hend.1, hclose, hselector, hnothing]
  simp only [declarations_indent, List.filter_append, hback, hcolor, List.nil_append,
    List.append_nil]
  exact hfont

/-- Where no text of a theme has a semicolon or a brace, a reader finds each colour in the
stylesheet once. -/
theorem filter_declarations_sheet (hp : p ∈ colorPlaces)
    (hplain : ∀ text ∈ t.writtenTexts, IsPlain text) :
    (declarations (sheet t.title t.properties t.background t.textColor).toList).filter
        (·.1 == customName (colorProperty p))
      = [(customName (colorProperty p), sheetValue (t.colorAt p).toList)] := by
  have hhead : (declarations ("/*" ++ (" " ++ t.title ++ " Theme */\n:root ")).toList).filter
      (·.1 == customName (colorProperty p)) = [] := by
    have htitle : IsPlain t.title := hplain _ List.mem_cons_self
    exact filter_declarations_of_stem (by decide)
      (isPlain_append.2 ⟨isPlain_append.2 ⟨by decide, htitle⟩, by decide⟩)
  have hcolors := filter_colorPlaces customName_injective (fun x => sheetValue (t.colorAt x).toList) hp
  have htokens : (t.tokenProperties.flatMap fun e => declarations (propertyPart e).toList).filter
      (·.1 == customName (colorProperty p)) = [] := by
    rw [List.filter_flatMap, List.flatMap_eq_nil_iff]
    exact fun e he => filter_declarations_token hplain he
  have hbody := filter_declarations_body (p := p) (hplain t.background (by simp [writtenTexts]))
    (hplain t.textColor (by simp [writtenTexts]))
  rw [toList_sheet, declarations_line (by decide), declarations_properties, properties,
    List.flatMap_append, declarations_colors hplain]
  simp only [List.filter_append, hhead, hcolors, htokens, hbody, List.nil_append, List.append_nil]

end Theme

namespace ThemeRegistry

variable {r : ThemeRegistry} {name : String} {t t' : Theme} {customizations : Members}
  {skipped : List String}

private theorem stylesheet_eq (h : r.get? name = some t)
    (hcustom : t.customized customizations = .ok (t', skipped)) :
    r.stylesheet name customizations = t'.stylesheet := by
  rw [stylesheet, h]
  simp only [hcustom]
  rfl

/-- Whatever themes were offered to the built-in ones before, a stylesheet is refused for an unknown
name. For a registered one whose theme can be customized it is written exactly if the colours by
meaning can be shown; it then declares each of the forty colours of the customized theme once, and a
reader finds each of them once if no text of the theme ends a declaration. -/
theorem stylesheet_offerAll (ts : List Theme) (name : String) (customizations : Members) :
    ∀ r, r = builtin.offerAll ts →
      (name ∉ r.names → r.stylesheet name customizations = .error (.unknown name))
      ∧ ∀ t t' skipped, r.get? name = some t → t.customized customizations = .ok (t', skipped) →
        ((∃ css, r.stylesheet name customizations = .ok css) ↔ t'.ShowsColors)
        ∧ (∀ e, r.stylesheet name customizations = .error e → e = .badTextColors ∨ e = .unwritable)
        ∧ ∀ css, r.stylesheet name customizations = .ok css →
          css = Theme.sheet t'.title t'.properties t'.background t'.textColor
          ∧ ∀ p ∈ Theme.colorPlaces, ∃ color, t'.color p.1 p.2 = .ok color
            ∧ t'.properties.filter (·.1 == colorProperty p) = [(colorProperty p, color)]
            ∧ ((∀ text ∈ t'.writtenTexts, IsPlain text) →
              (declarations css.toList).filter (·.1 == customName (colorProperty p))
                = [(customName (colorProperty p), sheetValue color.toList)]) := by
  rintro r rfl
  have hsound : (builtin.offerAll ts).Sound := (sound_of_themes_eq rfl).offerAll ts
  refine ⟨fun hname => ?_, fun t t' skipped hget hcustom => ?_⟩
  · have hnone : (builtin.offerAll ts).get? name = none := by
      rw [mem_names_iff, ← Option.isSome_iff_exists, Option.not_isSome_iff_eq_none] at hname
      exact hname
    rw [stylesheet, hnone]
  · have hsteps : t'.HasSteps :=
      (Theme.hasSteps_of_isComplete (hsound.of_get? hget).2).customized hcustom
    rw [stylesheet_eq hget hcustom]
    refine ⟨?_, fun e he => Theme.stylesheet_eq_error hsteps he, fun css hcss => ?_⟩
    · simp only [Theme.stylesheet_eq_ok_iff hsteps, exists_and_left, exists_eq, and_true]
    · obtain ⟨-, rfl⟩ := (Theme.stylesheet_eq_ok_iff hsteps).1 hcss
      refine ⟨rfl, fun p hp => ⟨t'.colorAt p, Theme.color_eq_colorAt hsteps hp,
        t'.filter_properties hp, Theme.filter_declarations_sheet hp⟩⟩

/-- A theme with a single distance, and without a title of its own. -/
def sunset : Theme :=
  { Theme.minimal with
    name := "sunset"
    displayName := ""
    spacing := [("gap", "1rem")]
    borderRadius := []
    shadows := [] }

/-- Another primary colour, and another colour of text. -/
def sunsetColors : Members :=
  [("colors", .obj
    [("primary", .obj [("600", .str " #be123c\n")]),
      ("semantic", .obj [("text", .obj [("primary", .str "#222222")])])])]

/-- A new theme in other colours. -/
theorem stylesheet_offerAll_sunset : ∃ r, r = builtin.offerAll [sunset] ∧ "neon" ∉ r.names
    ∧ r.stylesheet "neon" sunsetColors = .error (.unknown "neon")
    ∧ r.get? "sunset" = some sunset ∧ ∃ t', sunset.customized sunsetColors = .ok (t', [])
      ∧ (∀ text ∈ t'.writtenTexts, IsPlain text)
      ∧ ∃ css, r.stylesheet "sunset" sunsetColors = .ok css
        ∧ (declarations css.toList).filter (·.1 == "--color-primary-600")
          = [("--color-primary-600", "#be123c")] := by
  obtain ⟨r, hr⟩ : ∃ r, r = builtin.offerAll [sunset] := ⟨_, rfl⟩
  have hget : r.get? "sunset" = some sunset := by rw [hr]; rfl
  have hneon : "neon" ∉ r.names := by rw [hr]; decide
  obtain ⟨t', hcustom, hshows, hplain, hcolor⟩ : ∃ t', sunset.customized sunsetColors = .ok (t', [])
      ∧ t'.ShowsColors ∧ (∀ text ∈ t'.writtenTexts, IsPlain text)
      ∧ t'.color .primary 600 = .ok " #be123c\n" := by
    refine ⟨_, rfl, ⟨?_, ?_, ?_⟩, by decide +kernel, rfl⟩
    · rintro v ⟨⟩ -
      exact ⟨_, rfl⟩
    · rintro v ⟨⟩
      rfl
    · rintro v ⟨⟩
      rfl
  obtain ⟨hwritten, -, hcss⟩ :=
    (stylesheet_offerAll [sunset] "sunset" sunsetColors r hr).2 _ _ _ hget hcustom
  obtain ⟨css, hok⟩ := hwritten.2 hshows
  obtain ⟨color, hsame, -, hread⟩ := (hcss css hok).2 (.primary, 600) (by decide)
  obtain rfl := Except.ok.inj (hsame.symm.trans hcolor)
  have hunknown := (stylesheet_offerAll [sunset] "neon" sunsetColors r hr).1 hneon
  exact ⟨r, hr, hneon, hunknown, hget, t', hcustom, hplain, css, hok, hread hplain⟩

/-- One colour for all text. -/
def plainTextColor : Members := [("colors", .obj [("semantic", .obj [("text", .str "#111827")])])]

/-- A customization that is accepted and for which no stylesheet is written. -/
theorem stylesheet_plainTextColor : "modern" ∈ builtin.names
    ∧ (∃ merged, Theme.modern.customized plainTextColor = .ok merged)
    ∧ builtin.get? "modern" = some Theme.modern
    ∧ builtin.stylesheet "modern" plainTextColor = .error .badTextColors :=
  ⟨by decide, ⟨_, rfl⟩, rfl, rfl⟩

end ThemeRegistry

end SiteTemplate
