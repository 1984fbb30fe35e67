import SiteTemplate.Proofs.FallbackClasses

/-!
# Registries in use

A registry starts with the built-in themes and is offered further themes, one after the other. An
offer that is refused changes nothing; any other adds a theme or replaces the one of its name. At
any time the themes stand under their own names and are complete, so that a text can be put into
the skin of any theme that its customizations leave readable.
-/

namespace SiteTemplate

namespace Entries

variable {κ α : Type} [BEq κ] [LawfulBEq κ] {es : Entries κ α} {k : κ}

theorem has_eq_true_iff : has es k = true ↔ k ∈ keys es := by
  induction es with
  | nil => simp [has, keys]
  | cons e es ih =>
    obtain ⟨k', b⟩ := e
    by_cases hk : k = k'
    · simp [has, get?, keys, hk]
    · have hlookup : has ((k', b) :: es) k = has es k := by
        simp [has, get?, List.lookup_cons, beq_false_of_ne hk]
      rw [hlookup, ih]
      simp [keys, hk]

/-- A known key keeps its place. -/
theorem keys_put_of_mem (h : k ∈ keys es) (a : α) : keys (put k a es) = keys es := by
  induction es with
  | nil => cases h
  | cons e es ih =>
    obtain ⟨k', b⟩ := e
    by_cases hk : k' = k
    · simp [put, keys, hk]
    · have hmem : k ∈ keys es := by simpa [keys, Ne.symm hk] using h
      simpa [put, keys, hk] using ih hmem

theorem has_putAll {changes : Entries κ α} (h : has es k = true) :
    has (putAll es changes) k = true := by
  induction changes generalizing es with
  | nil => exact h
  | cons e changes ih => exact ih (has_put h)

end Entries

namespace Theme

variable {t t' : Theme}

/-- Overrides take no step away. -/
theorem HasSteps.override {c : Customization} (h : t.HasSteps)
    (ht : t.override c = Reading.ok t') : t'.HasSteps := by
  unfold Theme.override at ht
  cases hheights : t.lineHeights c with
  | error faults =>
    rw [hheights] at ht
    cases ht
  | ok heights =>
    rw [hheights] at ht
    obtain rfl := Except.ok.inj ht
    intro g step hstep
    cases g with
    | primary => exact Entries.has_putAll (h .primary step hstep)
    | secondary => exact Entries.has_putAll (h .secondary step hstep)
    | accent => exact Entries.has_putAll (h .accent step hstep)
    | neutral => exact Entries.has_putAll (h .neutral step hstep)

theorem HasSteps.customized {customizations : Members} {skipped : List String} (h : t.HasSteps)
    (ht : t.customized customizations = .ok (t', skipped)) : t'.HasSteps := by
  unfold Theme.customized at ht
  split at ht
  · cases ht
  · split at ht
    · cases ht
    · next hoverride =>
      obtain ⟨rfl, -⟩ := Prod.mk.inj (Except.ok.inj ht)
      exact h.override hoverride

theorem isComplete_builtin : ∀ t ∈ builtin, t.isComplete = true := by decide

end Theme

namespace ThemeRegistry

variable {r r' : ThemeRegistry} {t : Theme} {name : String}

/-- No name stands twice, every theme stands under its own name, and all themes are complete. -/
structure Sound (r : ThemeRegistry) : Prop where
  nodup_names : r.names.Nodup
  name_of_mem : ∀ e ∈ r.themes, e.2.name = e.1
  isComplete_of_mem : ∀ e ∈ r.themes, e.2.isComplete = true

theorem sound_of_themes_eq (h : r.themes = builtin.themes) : r.Sound := by
  have hnames : (Entries.keys builtin.themes).Nodup := by decide
  have hname : ∀ e ∈ builtin.themes, e.2.name = e.1 := by decide
  have hcomplete : ∀ e ∈ builtin.themes, e.2.isComplete = true := fun _ he =>
    Theme.isComplete_builtin _ (List.mem_map_of_mem he : _ ∈ builtin.themes.map (·.2))
  exact ⟨by rwa [names, h], by rwa [h], by rwa [h]⟩

theorem withTheme_eq_ok_iff : r.withTheme t = .ok r' ↔
    t.isComplete = true ∧ r'.themes = Entries.put t.name t r.themes ∧ r'.default = r.default := by
  obtain ⟨themes, default, hdefault⟩ := r'
  unfold withTheme
  split
  · next h => simp [h, eq_comm]
  · next h => simp [h]

private theorem exists_withTheme_iff : (∃ r', r.withTheme t = .ok r') ↔ t.isComplete = true := by
  unfold withTheme
  split
  · next h => simp [h]
  · next h => simp [h]

theorem names_withTheme (h : r.withTheme t = .ok r') :
    r'.names = if t.name ∈ r.names then r.names else r.names ++ [t.name] := by
  obtain ⟨-, hthemes, -⟩ := withTheme_eq_ok_iff.1 h
  split
  · next hmem => rw [names, hthemes, Entries.keys_put_of_mem hmem, names]
  · next hnot => simp [names, hthemes, Entries.put_of_not_mem hnot, Entries.keys]

/-- A sound registry stays sound when a theme is added or replaced. -/
theorem Sound.withTheme (hr : r.Sound) (h : r.withTheme t = .ok r') : r'.Sound := by
  have hnames := names_withTheme h
  obtain ⟨hcomplete, hthemes, -⟩ := withTheme_eq_ok_iff.1 h
  have hmem {e : String × Theme} (he : e ∈ r'.themes) : e = (t.name, t) ∨ e ∈ r.themes :=
    Entries.mem_of_mem_put (hthemes ▸ he)
  refine ⟨?_, fun e he => ?_, fun e he => ?_⟩
  · rw [hnames]
    split
    · exact hr.nodup_names
    · next hnot =>
      rw [List.nodup_append]
      refine ⟨hr.nodup_names, by simp, fun n hn m hm => ?_⟩
      rw [List.mem_singleton.1 hm]
      exact ne_of_mem_of_not_mem hn hnot
  · rcases hmem he with rfl | he
    · rfl
    · exact hr.name_of_mem e he
  · rcases hmem he with rfl | he
    · exact hcomplete
    · exact hr.isComplete_of_mem e he

/-- The registry after a theme has been offered to it; one that is not complete is refused. -/
def offer (r : ThemeRegistry) (t : Theme) : ThemeRegistry :=
  match r.withTheme t with
  | .ok r' => r'
  | .error _ => r

/-- The registry after several offers. -/
def offerAll (r : ThemeRegistry) (ts : List Theme) : ThemeRegistry := ts.foldl offer r

theorem Sound.offer (hr : r.Sound) (t : Theme) : (r.offer t).Sound := by
  unfold ThemeRegistry.offer
  split
  · next h => exact hr.withTheme h
  · exact hr

theorem Sound.offerAll (hr : r.Sound) (ts : List Theme) : (r.offerAll ts).Sound := by
  induction ts generalizing r with
  | nil => exact hr
  | cons t ts ih => exact ih (hr.offer t)

private theorem default_offer (r : ThemeRegistry) (t : Theme) :
    (r.offer t).default = r.default := by
  unfold offer
  split
  · next h => exact (withTheme_eq_ok_iff.1 h).2.2
  · rfl

private theorem default_offerAll (r : ThemeRegistry) (ts : List Theme) :
    (r.offerAll ts).default = r.default := by
  induction ts generalizing r with
  | nil => rfl
  | cons t ts ih => exact (ih (r.offer t)).trans (default_offer r t)

theorem mem_names_iff : name ∈ r.names ↔ ∃ t, r.get? name = some t := by
  rw [names, ← Entries.has_eq_true_iff, Entries.has, Option.isSome_iff_exists]
  rfl

theorem Sound.of_get? (hr : r.Sound) (h : r.get? name = some t) :
    t.name = name ∧ t.isComplete = true :=
  ⟨hr.name_of_mem _ (Entries.mem_of_get?_eq_some h),
    hr.isComplete_of_mem _ (Entries.mem_of_get?_eq_some h)⟩

/-- Whatever name is given, it stands for a registered theme. -/
theorem exists_get?_resolve (r : ThemeRegistry) (name : Option String) :
    ∃ n, r.get? n = some (r.resolve name) := by
  have hdefault : r.get? r.default = some r.defaultTheme := (Option.some_get _).symm
  have hfallback : r.get? r.fallback = some r.fallbackTheme := (Option.some_get _).symm
  unfold resolve
  split
  · exact ⟨_, hdefault⟩
  · split
    · next h => exact ⟨_, h⟩
    · split
      · exact ⟨_, hdefault⟩
      · exact ⟨_, hfallback⟩

private theorem prints_nameNotices_iff {printer : Printer} {name : Option String} {t : Theme} :
    printer.Prints (r.nameNotices name t) ↔
      (r.knows name = true ∧ name ≠ some "") ∨ printer.fault? (unknownNotice name t) = none := by
  unfold nameNotices
  by_cases h : r.knows name = true ∧ name ≠ some ""
  · simp [Printer.Prints, h]
  · have hunknown : ¬ (r.knows name && name != some "") = true := by simpa using h
    simp [Printer.Prints, hunknown, h]

/-- A text can be put into the skin of a theme exactly if the theme can be customized and its name
is known or can be told to be unknown. -/
theorem Sound.exists_apply_iff (hr : r.Sound) (printer : Printer) (text : String)
    (name : Option String) (customizations : Members) :
    (∃ out, r.apply printer text name customizations = .ok out) ↔
      ∃ t skipped, (r.resolve name).customized customizations = .ok (t, skipped)
        ∧ ((r.knows name = true ∧ name ≠ some "")
          ∨ printer.fault? (unknownNotice name t) = none) := by
  simp only [apply, customized, bind_eq_ok_iff, mapError_eq_ok_iff, Prod.exists,
    Printer.printAll_eq_ok_iff, prints_nameNotices_iff]
  constructor
  · rintro ⟨out, t, skipped, hmerged, -, hprints, -⟩
    exact ⟨t, skipped, hmerged, hprints⟩
  · rintro ⟨t, skipped, hmerged, hprints⟩
    obtain ⟨n, hn⟩ := r.exists_get?_resolve name
    have hsteps : t.HasSteps :=
      (Theme.hasSteps_of_isComplete (hr.of_get? hn).2).customized hmerged
    obtain ⟨s, hs⟩ := Skin.exists_ofTheme hsteps
    exact ⟨_, t, skipped, hmerged, (), hprints, by rw [Theme.reskin, hs]; rfl⟩

private theorem exists_ofThemes_builtin {d : String} (hd : d ∈ Theme.builtin.map (·.name)) :
    ∃ r, ofThemes Theme.builtin d = .ok r ∧ r.themes = builtin.themes ∧ r.default = d := by
  have hthemes : Entries.ofList (Theme.builtin.map fun t => (t.name, t)) = builtin.themes := rfl
  have hregistered : Entries.has builtin.themes d = true := by
    rw [Entries.has_eq_true_iff]
    exact hd
  simp only [ofThemes, hthemes, hregistered, dif_pos]
  exact ⟨_, rfl, rfl, rfl⟩

/-- Whatever themes are offered to the registry of the built-in themes, names stay distinct, the
default and the fallback stay registered, and every registered name finds a complete theme of this
name. A further theme is accepted if it is complete; it changes what its own name finds and nothing
else, and a new name comes last. A text can be put into the skin of the theme for any name,
registered, unknown or missing, exactly if this theme can be customized and a name that is not
registered can be told to be unknown. -/
theorem offerAll_builtin (d : String) (hd : d ∈ Theme.builtin.map (·.name)) (ts : List Theme) :
    ∃ start, ofThemes Theme.builtin d = .ok start ∧ ∀ r, r = start.offerAll ts →
      r.names.Nodup ∧ r.default = d ∧ d ∈ r.names ∧ r.fallback ∈ r.names
      ∧ (∀ name, name ∈ r.names ↔ ∃ t, r.get? name = some t)
      ∧ (∀ name t, r.get? name = some t → t.name = name)
      ∧ (∀ t ∈ Entries.values r.themes, t.isComplete = true)
      ∧ (∀ t, (∃ r', r.withTheme t = .ok r') ↔ t.isComplete = true)
      ∧ (∀ t r', r.withTheme t = .ok r' →
        r'.get? t.name = some t ∧ (∀ name, name ≠ t.name → r'.get? name = r.get? name)
        ∧ r'.names = (if t.name ∈ r.names then r.names else r.names ++ [t.name])
        ∧ r'.default = d)
      ∧ ∀ printer text name customizations,
        (∃ out, r.apply printer text name customizations = .ok out) ↔
          ∃ t skipped, (r.resolve name).customized customizations = .ok (t, skipped)
            ∧ ((r.knows name = true ∧ name ≠ some "")
              ∨ printer.fault? (unknownNotice name t) = none) := by
  obtain ⟨start, hstart, hthemes, rfl⟩ := exists_ofThemes_builtin hd
  refine ⟨start, hstart, ?_⟩
  rintro r rfl
  have hsound : (start.offerAll ts).Sound := (sound_of_themes_eq hthemes).offerAll ts
  have hdefault := default_offerAll start ts
  refine ⟨hsound.nodup_names, hdefault, ?_, ?_, fun name => mem_names_iff,
    fun name t ht => (hsound.of_get? ht).1, ?_, fun t => exists_withTheme_iff, ?_,
    fun printer text => hsound.exists_apply_iff printer text⟩
  · exact hdefault ▸ Entries.has_eq_true_iff.1 (start.offerAll ts).default_registered
  · exact Entries.has_eq_true_iff.1 (start.offerAll ts).fallback_registered
  · intro t ht
    obtain ⟨e, he, rfl⟩ := List.mem_map.1 ht
    exact hsound.isComplete_of_mem e he
  · intro t r' hr'
    obtain ⟨-, hput, hsame⟩ := withTheme_eq_ok_iff.1 hr'
    refine ⟨?_, fun name hne => ?_, names_withTheme hr', hsame.trans hdefault⟩
    · rw [get?, hput, Entries.get?_put_self]
    · rw [get?, hput, Entries.get?_put_of_ne hne]
      rfl

/-- A theme without font sizes, which is refused. -/
def unsized : Theme := { Theme.modern with typography := { fontFamily := [("primary", "Inter")] } }

/-- A replaced theme, one that is refused and a new one; the text is put into the skin of the
fallback. -/
theorem offerAll_builtin_cozy :
    "cozy" ∈ Theme.builtin.map (·.name) ∧
    ∃ start, ofThemes Theme.builtin "cozy" = .ok start ∧ ∀ r, r = start.offerAll
        [{ Theme.cozy with baseClasses := "" }, unsized, { Theme.minimal with name := "sunset" }] →
      r.names = ["modern", "cozy", "minimal", "sunset"] ∧ r.names.Nodup ∧ r.default = "cozy"
      ∧ ∃ out, r.apply .markup "<p class=bg-blue-600>" (some "neon") [] = .ok out := by
  have hd : "cozy" ∈ Theme.builtin.map (·.name) := by decide
  obtain ⟨start, hstart, h⟩ := offerAll_builtin "cozy" hd
    [{ Theme.cozy with baseClasses := "" }, unsized, { Theme.minimal with name := "sunset" }]
  refine ⟨hd, start, hstart, fun r hr => ?_⟩
  obtain ⟨hnodup, hdefault, -, -, -, -, -, -, -, happly⟩ := h r hr
  obtain rfl := Except.ok.inj hstart
  subst hr
  exact ⟨rfl, hnodup, hdefault, (happly _ _ _ _).2 ⟨_, _, rfl, .inr rfl⟩⟩

/-- The notice about a name that reads as a closing tag cannot be printed, so no theme is applied,
although the fallback can be customized. -/
theorem apply_closing_tag :
    (builtin.apply .markup "x" (some "[/x]") []).isOk = false
    ∧ ((builtin.resolve (some "[/x]")).customized []).isOk = true :=
  ⟨rfl, rfl⟩

end ThemeRegistry

end SiteTemplate
