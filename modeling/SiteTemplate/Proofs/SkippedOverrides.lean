import Mathlib.Data.List.Count
import SiteTemplate.Proofs.Scanning
import SiteTemplate.Proofs.ThemeMerging

/-!
# Skipped overrides

Customizations whose line heights a field can hold are merged into any theme, unless there is a
colour for a ramp step that looks like a number and is none. Every other entry of a ramp that is
not accepted is reported once, and the accepted ones are set.
-/

namespace SiteTemplate

open Entries Text

namespace Customization

/-- The warning that names a place. -/
def warning (place : String) : String :=
  "Ignoring invalid theme customization '" ++ place ++ "'"

private theorem warnings_eq (x : Customization) : x.warnings = x.skipped.map warning := rfl

private theorem framed_injective (before after : String) :
    Function.Injective fun s => before ++ s ++ after := by
  intro s t h
  simp only [← String.toList_inj, String.toList_append, List.append_cancel_left_eq,
    List.append_cancel_right_eq] at h
  exact String.toList_inj.1 h

private theorem warning_injective : Function.Injective warning := framed_injective _ _

private theorem count_warnings (x : Customization) (place : String) :
    x.warnings.count (warning place) = x.skipped.count place := by
  rw [warnings_eq, List.count_map_of_injective _ _ warning_injective]

private theorem count_refused {β : Type} {accept : String × Json → Option β} {ms : Members}
    {m : String × Json} (place : String) (hkeys : (keys ms).Nodup) (hm : m ∈ ms) :
    (refused place accept (.obj ms)).count (place ++ "." ++ m.1)
      = if (accept m).isSome then 0 else 1 := by
  have hinj : Function.Injective (place ++ "." ++ ·) := by
    intro key key' h
    simp only [← String.toList_inj, String.toList_append, List.append_cancel_left_eq] at h
    exact String.toList_inj.1 h
  have hmap : refused place accept (.obj ms)
      = (keys (ms.filter fun m => (accept m).isNone)).map (place ++ "." ++ ·) := by
    simp [refused, keys]
  have hnodup : (keys (ms.filter fun m => (accept m).isNone)).Nodup :=
    hkeys.sublist (List.filter_sublist.map _)
  have hmem : m.1 ∈ keys (ms.filter fun m => (accept m).isNone) ↔ (accept m).isNone := by
    constructor
    · intro h
      obtain ⟨m', hm', hkey⟩ := List.mem_map.1 h
      obtain ⟨hms, hnone⟩ := List.mem_filter.1 hm'
      obtain rfl := List.inj_on_of_nodup_map hkeys hms hm hkey
      exact hnone
    · intro h
      exact List.mem_map_of_mem (List.mem_filter.2 ⟨hm, h⟩)
  rw [hmap, List.count_map_of_injective _ _ hinj, hnodup.count]
  simp only [hmem]
  cases accept m <;> simp

/-- The place of an entry of a ramp. -/
def stepPlace (g : ColorGroup) (key : String) : String := "colors." ++ g.name ++ "." ++ key

theorem exists_of_mem_refused {β : Type} {place p : String} {accept : String × Json → Option β}
    {v : Json} (h : p ∈ refused place accept v) :
    ∃ rest, p.toList = place.toList ++ rest ∧ rest.head?.any (· != '.') = false := by
  cases v with
  | obj ms =>
    obtain ⟨m, -, rfl⟩ := List.mem_map.1 h
    exact ⟨'.' :: m.1.toList, by simp, rfl⟩
  | _ =>
    obtain rfl := List.mem_singleton.1 h
    exact ⟨[], by simp, rfl⟩

theorem head?_of_mem_refused {β : Type} {place p : String} {accept : String × Json → Option β}
    {v : Json} {a : Char} (hplace : place.toList.head? = some a) (h : p ∈ refused place accept v) :
    p.toList.head? = some a := by
  obtain ⟨rest, hrest, -⟩ := exists_of_mem_refused h
  rw [hrest, List.head?_append, hplace]
  rfl

theorem name_no_dot (g : ColorGroup) : ∀ a ∈ g.name.toList, (a != '.') = true := by
  cases g <;> exact List.all_eq_true.1 (by decide)

private theorem exists_of_mem_colorPart {e : String × Json} {p : String}
    (h : p ∈ (colorPart e).skipped) :
    (∀ a ∈ e.1.toList, (a != '.') = true) ∧
      ∃ rest, p.toList = "colors.".toList ++ (e.1.toList ++ rest)
        ∧ rest.head?.any (· != '.') = false := by
  simp only [colorPart] at h
  split at h
  · next hsome =>
    obtain ⟨g, hg⟩ := Option.isSome_iff_exists.1 hsome
    obtain ⟨rest, hrest, hhead⟩ := exists_of_mem_refused h
    rw [String.toList_append, List.append_assoc] at hrest
    rw [ofName?_eq_some_iff] at hg
    exact ⟨hg ▸ name_no_dot g, rest, hrest, hhead⟩
  · split at h
    · next hsemantic =>
      obtain ⟨rest, hrest, hhead⟩ := exists_of_mem_refused h
      rw [String.toList_append, List.append_assoc] at hrest
      exact ⟨eq_of_beq hsemantic ▸ List.all_eq_true.1 (by decide), rest, hrest, hhead⟩
    · cases h

private theorem stepPlace_not_mem {g : ColorGroup} {e : String × Json} (hne : e.1 ≠ g.name)
    (key : String) : stepPlace g key ∉ (colorPart e).skipped := by
  intro h
  obtain ⟨hdots, rest, hrest, hhead⟩ := exists_of_mem_colorPart h
  have hplace : (stepPlace g key).toList
      = "colors.".toList ++ (g.name.toList ++ '.' :: key.toList) := by simp [stepPlace]
  rw [hplace, List.append_cancel_left_eq] at hrest
  exact hne (String.toList_inj.1 (eq_of_runs hrest (name_no_dot g) rfl hdots hhead).1.symm)

private theorem head?_of_mem_fontSkipped {e : String × Json} {p : String} (h : p ∈ fontSkipped e) :
    p.toList.head? = some 't' := by
  have hplace : ("typography." ++ e.1).toList.head? = some 't' := by simp
  unfold fontSkipped at h
  split at h
  case h_5 => cases h
  all_goals exact head?_of_mem_refused hplace h

theorem head?_of_mem_scaleSkipped {c : Members} {key : Key} {p : String} {a : Char}
    (hkey : key.wire.toList.head? = some a) (h : p ∈ scaleSkipped c key) :
    p.toList.head? = some a := by
  unfold scaleSkipped at h
  split at h
  · cases h
  · exact head?_of_mem_refused hkey h

private theorem eq_of_mem_categoryMembers {c : Members} {category p : String}
    (h : p ∈ (categoryMembers c category).1.skipped) : p = category := by
  unfold categoryMembers at h
  split at h
  · cases h
  · split at h
    · cases h
    · split at h
      · exact List.mem_singleton.1 h
      · cases h

private theorem head?_of_mem_othersSkipped {c : Members} {p : String} (h : p ∈ othersSkipped c) :
    p.toList.head? ≠ some 'c' := by
  simp only [othersSkipped, List.mem_append, List.mem_flatMap] at h
  rcases h with ((((h | ⟨e, -, h⟩) | h) | h) | h) | h
  · simp [eq_of_mem_categoryMembers h]
  · simp [head?_of_mem_fontSkipped h]
  · simp [head?_of_mem_scaleSkipped (a := 's') rfl h]
  · simp [head?_of_mem_scaleSkipped (a := 'b') rfl h]
  · simp [head?_of_mem_scaleSkipped (a := 's') rfl h]
  · simp [head?_of_mem_scaleSkipped (a := 'b') rfl h]

section Ramp

variable {c groups ramp : Members} {g : ColorGroup}

private theorem count_colorsSkipped (hcolors : get? c "colors" = some (.obj groups))
    (hkeys : (keys groups).Nodup) (hg : (g.name, .obj ramp) ∈ groups) (key : String) :
    (colorsSkipped c).count (stepPlace g key)
      = (refused ("colors." ++ g.name) color? (.obj ramp)).count (stepPlace g key) := by
  have hskipped : colorsSkipped c = groups.flatMap fun e => (colorPart e).skipped := by
    simp [colorsSkipped, categoryMembers, groupsOf, hcolors, Json.members?]
  have hpart : (colorPart (g.name, .obj ramp)).skipped
      = refused ("colors." ++ g.name) color? (.obj ramp) := by
    simp [colorPart, ofName?_eq_some_iff.2 (rfl : g.name = g.name)]
  obtain ⟨before, after, rfl, hbefore, hafter⟩ := exists_split_of_mem hkeys hg
  have hother (es : Members) (hes : ∀ e ∈ es, e.1 ≠ g.name) :
      (es.flatMap fun e => (colorPart e).skipped).count (stepPlace g key) = 0 := by
    rw [List.count_eq_zero, List.mem_flatMap]
    rintro ⟨e, he, hmem⟩
    exact stepPlace_not_mem (hes e he) key hmem
  rw [hskipped, List.flatMap_append, List.flatMap_cons, List.count_append, List.count_append,
    hother before hbefore, hother after hafter, hpart, Nat.zero_add, Nat.add_zero]

private theorem count_othersSkipped (c : Members) (g : ColorGroup) (key : String) :
    (othersSkipped c).count (stepPlace g key) = 0 :=
  List.count_eq_zero.2 fun h => head?_of_mem_othersSkipped h (by simp [stepPlace])

private theorem count_warnings_of_read {x : Customization} (hx : read c = .ok x)
    (hcolors : get? c "colors" = some (.obj groups)) (hgroups : (keys groups).Nodup)
    (hg : (g.name, .obj ramp) ∈ groups) (hramp : (keys ramp).Nodup) {m : String × Json}
    (hm : m ∈ ramp) :
    x.warnings.count (warning (stepPlace g m.1)) = if (color? m).isSome then 0 else 1 := by
  rw [count_warnings, read_eq hx]
  rw [List.count_append, count_othersSkipped, count_colorsSkipped hcolors hgroups hg, Nat.add_zero]
  exact count_refused _ hramp hm

private theorem colorSettings_of_mem (hcolors : get? c "colors" = some (.obj groups))
    (hkeys : (keys groups).Nodup) (hg : (g.name, .obj ramp) ∈ groups) :
    colorSettings c g = ramp.filterMap color? := by
  have hgroups : groupsOf c "colors" = groups := by simp [groupsOf, hcolors, Json.members?]
  obtain ⟨before, after, rfl, hbefore, hafter⟩ := exists_split_of_mem hkeys hg
  have hother (es : Members) (hes : ∀ e ∈ es, e.1 ≠ g.name) :
      es.flatMap (fun e => if e.1 == g.name then accepted color? e.2 else []) = [] :=
    List.flatMap_eq_nil_iff.2 fun e he => if_neg (by simpa using hes e he)
  rw [colorSettings, given, hgroups, List.flatMap_append, List.flatMap_cons, hother before hbefore,
    hother after hafter, List.append_nil, List.nil_append]
  simp [accepted]

end Ramp

/-- All numbers for line heights are ones that a field can hold. -/
def HeightsFit (c : Members) : Prop :=
  ∀ group ms, (group, .obj ms) ∈ groupsOf c "typography" → plainName group = "line_height" →
    ∀ m ∈ ms, m.2.isNumber → ∃ height, Read.float m.2 = Reading.ok height

private theorem HeightsFit.exists_eq_ok {c : Members} (h : HeightsFit c)
    {e : String × Reading Binary64}
    (he : e ∈ fontSettings c "line_height" height?) : ∃ height, e.2 = Reading.ok height := by
  obtain ⟨⟨group, v⟩, hgroup, he⟩ := List.mem_flatMap.1 he
  split at he
  · next hname =>
    cases v with
    | obj ms =>
      obtain ⟨m, hm, hnamed⟩ := List.mem_filterMap.1 he
      obtain ⟨reading, hreading, rfl⟩ := Option.map_eq_some_iff.1 hnamed
      obtain ⟨hnumber, hread⟩ := Option.ite_none_right_eq_some.1 hreading
      obtain rfl := Option.some.inj hread
      exact h group ms hgroup (eq_of_beq hname) m hm hnumber
    | _ => cases he
  · cases he

end Customization

namespace Theme

open Customization

variable {t : Theme} {c : Members}

private theorem exists_customized_iff (t : Theme) (hfit : HeightsFit c) :
    (∃ r, t.customized c = .ok r) ↔ ¬ HasBadColor c := by
  rw [← fails_read_iff]
  constructor
  · rintro ⟨⟨t', skipped⟩, h⟩
    obtain ⟨x, hx, -⟩ := customized_eq_ok_iff.1 h
    simp [hx]
  · intro h
    cases hx : Customization.read c with
    | error e => simp [hx] at h
    | ok x =>
      have hheights : ∀ e ∈ x.lineHeight, ∃ height, e.2 = Reading.ok height := by
        rw [read_eq hx]
        exact fun e he => hfit.exists_eq_ok he
      obtain ⟨t', ht'⟩ := t.exists_override hheights
      exact ⟨(t', x.warnings), customized_eq_ok_iff.2 ⟨x, hx, ht', rfl⟩⟩

/-- Customizations whose line heights can be held are merged unless a colour stands for a step that
looks like a number and is none. The entries of a ramp that are not accepted are then reported, each
once, and every step has the last colour that is accepted for it. -/
theorem customized_reports (t : Theme) (hfit : HeightsFit c) :
    ((∃ r, t.customized c = .ok r) ↔ ¬ HasBadColor c)
      ∧ ∀ t' reports, t.customized c = .ok (t', reports) →
        ∀ (g : ColorGroup) (groups ramp : Members), get? c "colors" = some (.obj groups) →
          (keys groups).Nodup → (g.name, .obj ramp) ∈ groups → (keys ramp).Nodup →
          (∀ m ∈ ramp, reports.count (warning (stepPlace g m.1))
            = if (color? m).isSome then 0 else 1)
          ∧ ∀ step, get? (t'.colors.ramp g) step
            = (last? (ramp.filterMap color?) step).or (get? (t.colors.ramp g) step) := by
  refine ⟨exists_customized_iff t hfit, ?_⟩
  intro t' reports h g groups ramp hcolors hgroups hg hramp
  obtain ⟨x, hx, ht', rfl⟩ := customized_eq_ok_iff.1 h
  refine ⟨fun m hm => count_warnings_of_read hx hcolors hgroups hg hramp hm, fun step => ?_⟩
  rw [← colorSettings_of_mem hcolors hgroups hg]
  exact ((isOverlay_of_override hx ht').ramp g).get?_eq step

theorem heightsFit_repaint : HeightsFit repaint := by
  intro group ms hgroup hname m hm _
  have hgroups : groupsOf repaint "typography"
      = [("fontFamily", .obj [("primary", "Roboto")]),
        ("font_family", .obj [("primary", "Sarabun")]), ("lineHeight", .obj [("body", .int 2)])] := rfl
  simp only [hgroups, List.mem_cons, List.not_mem_nil, or_false, Prod.mk.injEq, Json.obj.injEq]
    at hgroup
  rcases hgroup with ⟨rfl, -⟩ | ⟨rfl, -⟩ | ⟨-, rfl⟩
  · exact absurd hname (by decide)
  · exact absurd hname (by decide)
  · obtain rfl := List.mem_singleton.1 hm
    exact ⟨.ofInt 2, rfl⟩

theorem customized_reports_repaint :
    HeightsFit repaint
      ∧ ((∃ r, swatch.customized repaint = .ok r) ↔ ¬ HasBadColor repaint)
      ∧ ["Ignoring invalid theme customization 'colors.primary.x'"].count
          (warning (stepPlace .primary "x")) = 1
      ∧ ["Ignoring invalid theme customization 'colors.primary.x'"].count
          (warning (stepPlace .primary "600")) = 0
      ∧ get? repainted.colors.primary 600 = some "#444444" := by
  obtain ⟨hiff, hreports⟩ := customized_reports swatch heightsFit_repaint
  obtain ⟨hcount, hget⟩ := hreports repainted _ rfl .primary _ _ rfl (by decide)
    List.mem_cons_self (by decide)
  exact ⟨heightsFit_repaint, hiff, hcount ("x", "#555555") (by simp),
    hcount ("600", "#333333") (by simp), hget 600⟩

/-- A colour for a step that is a superscript, before a colour for a step. -/
def superscriptColor : Members :=
  [("colors", .obj [("primary", .obj [("²", "#ffffff"), ("600", "#000000")])])]

/-- A customization without numbers that is not merged. -/
theorem customized_superscriptColor :
    HeightsFit superscriptColor
      ∧ Theme.modern.customized superscriptColor = .error (.badStep ⟨"²"⟩) :=
  ⟨nofun, rfl⟩

end Theme

end SiteTemplate
