import SiteTemplate.Proofs.AcceptedOverrides
import SiteTemplate.Proofs.Overlays
import SiteTemplate.Proofs.RecordReading

/-!
# Themes under customizations

A customization lies over a theme: every entry of a table has the value of the last override that
was accepted for it, or the value it had; no entry disappears and nothing else changes. A theme that
already has the overrides of a customization stays as it is under them.
-/

namespace SiteTemplate

open Entries Customization

theorem Theme.lineHeights_eq_ok_iff {t : Theme} {x : Customization}
    {heights : Entries String Binary64} :
    t.lineHeights x = Reading.ok heights ↔
      putAll (mapValues Reading.ok t.typography.lineHeight) x.lineHeight
        = mapValues Reading.ok heights := by
  rw [← List.forall₂_eq_eq_eq, mapValues, mapValues, List.forall₂_map_right_iff]
  simp only [Theme.lineHeights, Reading.within_eq_ok_iff, Reading.all_eq_ok_iff,
    List.forall₂_map_left_iff, Reading.map_eq_ok_iff, mapValues]
  refine iff_of_eq (congrFun (congrFun (congrArg List.Forall₂ ?_) _) _)
  funext m e
  obtain ⟨key, r⟩ := m
  obtain ⟨key', a⟩ := e
  simp [and_comm]

/-- The overrides of line heights that a field can hold are those of all numbers whose reading has
no fault. -/
theorem fontSettings_line? (c : Members) (table : String) :
    fontSettings c table line?
      = (fontSettings c table height?).filterMap fun e => e.2.toOption.map (e.1, ·) := by
  have hnamed : named? line?
      = fun m => (named? height? m).bind fun e => e.2.toOption.map (e.1, ·) := by
    funext m
    simp only [named?, line?]
    cases height? m.2 <;> simp
  have haccepted (v : Json) : accepted (named? line?) v
      = (accepted (named? height?) v).filterMap fun e => e.2.toOption.map (e.1, ·) := by
    cases v with
    | obj ms => rw [accepted, accepted, List.filterMap_filterMap, hnamed]
    | _ => rfl
  rw [fontSettings, fontSettings, given, given, List.filterMap_flatMap]
  refine List.flatMap_congr fun g _ => ?_
  split
  · exact haccepted g.2
  · rfl

private theorem overlay_heights {old new : Entries String Binary64}
    {settings : List (String × Reading Binary64)}
    (h : putAll (mapValues Reading.ok old) settings = mapValues Reading.ok new) :
    Overlay old (settings.filterMap fun e => e.2.toOption.map (e.1, ·)) new := by
  have hget (key : String) : (get? new key).map Reading.ok
      = (last? settings key).or ((get? old key).map Reading.ok) := by
    rw [← get?_mapValues, ← h, get?_putAll, get?_mapValues]
  have hkept : ∀ key r, last? settings key = some r → r.toOption.isSome := by
    intro key r hr
    have hnew := hget key
    rw [hr, Option.some_or, Option.map_eq_some_iff] at hnew
    obtain ⟨height, -, rfl⟩ := hnew
    rfl
  refine ⟨fun key => ?_, ?_⟩
  · have hnew := hget key
    rw [last?_filterMap Reading.toOption (hkept key)]
    cases hlast : last? settings key with
    | none =>
      rw [hlast, Option.none_or] at hnew
      exact Option.map_injective (fun _ _ => Reading.ok_eq_ok_iff.1) hnew
    | some r =>
      rw [hlast, Option.some_or, Option.map_eq_some_iff] at hnew
      obtain ⟨height, hheight, rfl⟩ := hnew
      exact hheight
  · have hkeys := keys_prefix_putAll (mapValues Reading.ok old) settings
    rwa [h, keys_mapValues, keys_mapValues] at hkeys

private theorem exists_eq_mapValues {settings : Entries String (Reading Binary64)}
    (h : ∀ e ∈ settings, ∃ height, e.2 = Reading.ok height) :
    ∃ heights, settings = mapValues Reading.ok heights := by
  induction settings with
  | nil => exact ⟨[], rfl⟩
  | cons e settings ih =>
    rw [List.forall_mem_cons] at h
    obtain ⟨height, hheight⟩ := h.1
    obtain ⟨heights, rfl⟩ := ih h.2
    exact ⟨(e.1, height) :: heights, by simp [mapValues, ← hheight]⟩

namespace Theme

variable {t t' : Theme} {x : Customization} {c : Members} {skipped : List String}

theorem override_eq_ok_iff : t.override x = Reading.ok t' ↔
    ∃ heights, t.lineHeights x = Reading.ok heights ∧ t' =
      { t with
        colors :=
          { primary := putAll t.colors.primary x.primary
            secondary := putAll t.colors.secondary x.secondary
            accent := putAll t.colors.accent x.accent
            neutral := putAll t.colors.neutral x.neutral
            semantic := putAll t.colors.semantic x.semantic }
        typography :=
          { fontFamily := putAll t.typography.fontFamily x.fontFamily
            fontSize := putAll t.typography.fontSize x.fontSize
            fontWeight := putAll t.typography.fontWeight x.fontWeight
            lineHeight := heights }
        spacing := putAll t.spacing x.spacing
        borderRadius := putAll t.borderRadius x.borderRadius
        shadows := putAll t.shadows x.shadows
        breakpoints := putAll t.breakpoints x.breakpoints } := by
  simp only [Theme.override, Reading.map_eq_ok_iff, @eq_comm Theme t']

theorem customized_eq_ok_iff : t.customized c = .ok (t', skipped) ↔
    ∃ x, Customization.read c = .ok x ∧ t.override x = Reading.ok t' ∧ x.warnings = skipped := by
  unfold Theme.customized
  cases Customization.read c with
  | error e => simp
  | ok x =>
    rcases hoverride : t.override x with fs | t''
    · simp [hoverride, Reading.ok]
    · simp only [Except.ok.injEq, Prod.mk.injEq, exists_eq_left', hoverride]
      exact and_congr_left fun _ => Reading.ok_eq_ok_iff.symm

/-- Line heights without a fault can always be set. -/
theorem exists_override (t : Theme)
    (hfit : ∀ e ∈ x.lineHeight, ∃ height, e.2 = Reading.ok height) :
    ∃ t', t.override x = Reading.ok t' := by
  obtain ⟨settings, hsettings⟩ := exists_eq_mapValues hfit
  have hheights := putAll_mapValues Reading.ok t.typography.lineHeight settings
  rw [← hsettings] at hheights
  exact ⟨_, override_eq_ok_iff.2 ⟨_, lineHeights_eq_ok_iff.2 hheights, rfl⟩⟩

private theorem override_override (h : t.override x = Reading.ok t') :
    t'.override x = Reading.ok t' := by
  obtain ⟨heights, hheights, rfl⟩ := override_eq_ok_iff.1 h
  refine override_eq_ok_iff.2 ⟨heights, ?_, ?_⟩
  · rw [lineHeights_eq_ok_iff] at hheights ⊢
    rw [← hheights, putAll_putAll_self]
  · simp only [putAll_putAll_self]

/-- What a customization makes of a theme: the accepted overrides lie over its tables, and all else
is as it was. -/
structure IsOverlay (t : Theme) (c : Members) (t' : Theme) : Prop where
  ramp : ∀ g, Overlay (t.colors.ramp g) (colorSettings c g) (t'.colors.ramp g)
  semantic : Overlay t.colors.semantic (semanticSettings c) t'.colors.semantic
  fontFamily : Overlay t.typography.fontFamily (fontSettings c "font_family" Json.text?)
    t'.typography.fontFamily
  fontSize : Overlay t.typography.fontSize (fontSettings c "font_size" Json.text?)
    t'.typography.fontSize
  fontWeight : Overlay t.typography.fontWeight (fontSettings c "font_weight" whole?)
    t'.typography.fontWeight
  lineHeight : Overlay t.typography.lineHeight (fontSettings c "line_height" line?)
    t'.typography.lineHeight
  spacing : Overlay t.spacing (scaleSettings c (.single "spacing")) t'.spacing
  borderRadius : Overlay t.borderRadius (scaleSettings c ⟨"border_radius", "borderRadius"⟩)
    t'.borderRadius
  shadows : Overlay t.shadows (scaleSettings c (.single "shadows")) t'.shadows
  breakpoints : Overlay t.breakpoints (scaleSettings c (.single "breakpoints")) t'.breakpoints
  name : t'.name = t.name
  displayName : t'.displayName = t.displayName
  description : t'.description = t.description
  baseClasses : t'.baseClasses = t.baseClasses
  radiusSteps : t'.radiusSteps = t.radiusSteps
  shadowSteps : t'.shadowSteps = t.shadowSteps

theorem isOverlay_of_override (hx : Customization.read c = .ok x)
    (h : t.override x = Reading.ok t') : t.IsOverlay c t' := by
  obtain ⟨heights, hheights, rfl⟩ := override_eq_ok_iff.1 h
  rw [lineHeights_eq_ok_iff] at hheights
  have hlines := overlay_heights hheights
  rw [read_eq hx, ← fontSettings_line?] at hlines
  rw [read_eq hx]
  exact
    { ramp := fun g => by cases g <;> exact overlay_putAll _ _
      semantic := overlay_putAll _ _
      fontFamily := overlay_putAll _ _
      fontSize := overlay_putAll _ _
      fontWeight := overlay_putAll _ _
      lineHeight := hlines
      spacing := overlay_putAll _ _
      borderRadius := overlay_putAll _ _
      shadows := overlay_putAll _ _
      breakpoints := overlay_putAll _ _
      name := rfl
      displayName := rfl
      description := rfl
      baseClasses := rfl
      radiusSteps := rfl
      shadowSteps := rfl }

/-- A theme under a customization has the accepted overrides over its own entries and keeps all
else, and under the same customization it stays as it is. -/
theorem customized_isOverlay (h : t.customized c = .ok (t', skipped)) :
    t.IsOverlay c t' ∧ t'.customized c = .ok (t', skipped) := by
  obtain ⟨x, hread, hoverride, hskipped⟩ := customized_eq_ok_iff.1 h
  exact ⟨isOverlay_of_override hread hoverride,
    customized_eq_ok_iff.2 ⟨x, hread, override_override hoverride, hskipped⟩⟩

/-- A theme with one entry in most tables. -/
def swatch : Theme where
  name := "swatch"
  colors :=
    { primary := [(500, "#111111"), (600, "#222222")], secondary := [], accent := [], neutral := [] }
  typography := { fontFamily := [("primary", "Inter")], fontWeight := [("bold", 700)] }
  borderRadius := [("lg", "8px")]

/-- Overrides in several spellings, among them a colour for no step. -/
def repaint : Members :=
  [("colors", .obj [("primary", .obj [("600", "#333333"), ("0600", "#444444"), ("x", "#555555")])]),
    ("typography", .obj
      [("fontFamily", .obj [("primary", "Roboto")]), ("font_family", .obj [("primary", "Sarabun")]),
        ("lineHeight", .obj [("body", .int 2)])]),
    ("borderRadius", .obj []), ("border_radius", .obj [("xl", "12px")])]

/-- The theme under the overrides. -/
def repainted : Theme where
  name := "swatch"
  colors :=
    { primary := [(500, "#111111"), (600, "#444444")], secondary := [], accent := [], neutral := [] }
  typography :=
    { fontFamily := [("primary", "Sarabun")], fontWeight := [("bold", 700)]
      lineHeight := [("body", .ofInt 2)] }
  borderRadius := [("lg", "8px"), ("xl", "12px")]

theorem customized_isOverlay_repaint :
    swatch.customized repaint
        = .ok (repainted, ["Ignoring invalid theme customization 'colors.primary.x'"])
      ∧ swatch.IsOverlay repaint repainted
      ∧ repainted.customized repaint
        = .ok (repainted, ["Ignoring invalid theme customization 'colors.primary.x'"]) := by
  have h : swatch.customized repaint
      = .ok (repainted, ["Ignoring invalid theme customization 'colors.primary.x'"]) := by rfl
  exact ⟨h, customized_isOverlay h⟩

end Theme

end SiteTemplate
