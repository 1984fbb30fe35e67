import SiteTemplate.Proofs.FileByFile
import SiteTemplate.Proofs.ModelAnswers
import SiteTemplate.Proofs.RecordReading

/-!
# The theme of a run

The name that a caller gives for a theme is looked at once, when the data are completed, and gives
way there to the name of a registered theme. From then on only that name counts: the run is the one
with the data that give it from the start, and its theme is used for the class lists of the fallback
and for the skin of every file. The notice about an unknown name quotes it; if the notice cannot be
printed, the run ends there.
-/

namespace SiteTemplate

/-- The same data with the name of another theme. -/
def UserData.withTheme (d : UserData) (name : String) : UserData := { d with theme := some name }

/-- The same data with the name of another theme, as they are supplied. -/
def Supplied.setTheme (name : String) : Supplied UserData → Supplied UserData
  | .record d => .record (d.withTheme name)
  | .raw .null => .raw (.obj [("theme", .str name)])
  | .raw (.obj ms) => .raw (.obj (Entries.put "theme" (.str name) ms))
  | .raw v => .raw v

/-- A project with more warnings, which come before all others. -/
def Project.warned (messages : List String) (project : Project) : Project :=
  { project with info := { project.info with warnings := messages ++ project.info.warnings } }

private theorem ThemeRegistry.customized_of_get? {r : ThemeRegistry} {name : String} {base : Theme}
    (h : r.get? name = some base) (customizations : Members) :
    r.customized (some name) customizations = base.customized customizations := by
  simp only [customized, resolve, h]

theorem ThemeRegistry.reskin_of_customized {r : ThemeRegistry} {name : Option String}
    {customizations : Members} {t : Theme} {skipped : List String}
    (h : r.customized name customizations = .ok (t, skipped)) (text : String) :
    r.reskin text name customizations = t.reskin text := by
  rw [reskin, h]
  rfl

namespace Processor

variable {p : Processor} {template : Supplied Template} {data : Supplied UserData}
  {generatedAt key : String} {t : Template} {d : UserData}

theorem readUserData_obj_eq_ok_iff {ms : Members} :
    readUserData key (.raw (.obj ms)) = .ok d ↔ UserData.read (.obj ms) = Reading.ok d := by
  cases hread : (UserData.read (.obj ms) : Except (List Fault) UserData) with
  | error faults => simp [readUserData, hread, Reading.ok]
  | ok d' =>
    simp only [readUserData, hread]
    constructor <;> exact fun h => congrArg Except.ok (Except.ok.inj h)

private theorem readUserData_setTheme (name : String) (h : readUserData key data = .ok d) :
    readUserData key (data.setTheme name) = .ok (d.withTheme name) := by
  cases data with
  | record d' =>
    cases h
    rfl
  | raw v =>
    cases v with
    | null =>
      cases h
      rfl
    | obj ms =>
      rw [readUserData_obj_eq_ok_iff] at h
      exact readUserData_obj_eq_ok_iff.2 (UserData.read_put_theme name h)
    | _ => cases h

/-- The warning about an unknown name. -/
def unknownTheme (p : Processor) (name : String) : String :=
  s!"Unknown theme '{name}', using '{p.registry.fallback}' instead"

/-- The notice about an unknown name. -/
def unknownThemeNotice (p : Processor) (name : String) : String :=
  "[bold yellow]  " ++ p.unknownTheme name ++ "[/bold yellow]"

theorem themeFor_of_missing (h : d.theme.filter (· != "") = none) :
    p.themeFor d = (p.registry.default, []) := by
  rw [themeFor, h]

theorem themeFor_of_known {name : String} (h : d.theme = some name) (hname : name ≠ "")
    (hknown : Entries.has p.registry.themes name = true) : p.themeFor d = (name, []) := by
  have hgiven : d.theme.filter (· != "") = some name := by simp [h, hname]
  have hknows : p.registry.knows (some name) = true := hknown
  simp only [themeFor, hgiven, hknows, if_true]

theorem themeFor_of_unknown {name : String} (h : d.theme = some name) (hname : name ≠ "")
    (hunknown : Entries.has p.registry.themes name = false) :
    p.themeFor d = (p.registry.fallback, [p.unknownTheme name]) := by
  have hgiven : d.theme.filter (· != "") = some name := by simp [h, hname]
  have hknows : p.registry.knows (some name) = false := hunknown
  simp only [themeFor, hgiven, hknows, Bool.false_eq_true, if_false]
  rfl

theorem has_themeFor (p : Processor) (d : UserData) :
    Entries.has p.registry.themes (p.themeFor d).1 = true := by
  unfold themeFor
  split
  · exact p.registry.default_registered
  · split
    · next hknown => exact hknown
    · exact p.registry.fallback_registered

private theorem default_eq_empty_of_fallback (h : p.registry.fallback = "") :
    p.registry.default = "" := by
  unfold ThemeRegistry.fallback at h
  split at h
  · exact absurd h (by decide)
  · exact h

theorem default_eq_empty_of_themeFor (h : (p.themeFor d).1 = "") : p.registry.default = "" := by
  cases hgiven : d.theme.filter (· != "") with
  | none =>
    rw [themeFor_of_missing hgiven] at h
    exact h
  | some name =>
    obtain ⟨htheme, hname⟩ := Option.filter_eq_some_iff.1 hgiven
    have hne : name ≠ "" := by simpa using hname
    cases hknown : Entries.has p.registry.themes name with
    | true =>
      rw [themeFor_of_known htheme hne hknown] at h
      exact absurd h hne
    | false =>
      rw [themeFor_of_unknown htheme hne hknown] at h
      exact default_eq_empty_of_fallback h

theorem themeFor_withTheme (p : Processor) (d : UserData) :
    p.themeFor (d.withTheme (p.themeFor d).1) = ((p.themeFor d).1, []) := by
  by_cases hempty : (p.themeFor d).1 = ""
  · have hmissing : (d.withTheme (p.themeFor d).1).theme.filter (· != "") = none := by
      simp [UserData.withTheme, hempty]
    rw [themeFor_of_missing hmissing, default_eq_empty_of_themeFor hempty, hempty]
  · exact themeFor_of_known rfl hempty (has_themeFor p d)

private theorem normalized_withTheme (p : Processor) (d : UserData) :
    p.normalized (d.withTheme (p.themeFor d).1) = ((p.normalized d).1, []) := by
  simp only [normalized, themeFor_withTheme]
  rfl

private theorem assemble_append (p : Processor) (t : Template) (s : Setting)
    (made : List (ProcessedFile × Nat)) (messages warnings : List String) (generatedAt : String) :
    p.assemble t s made (messages ++ warnings) generatedAt
      = (p.assemble t s made warnings generatedAt).warned messages := by
  simp [assemble, Project.warned]

private theorem runRead_eq_warned (t : Template) (generatedAt : String)
    (h : p.printer.Prints (p.themeNotices d)) :
    p.runRead t d generatedAt
      = (p.runRead t (d.withTheme (p.themeFor d).1) generatedAt).map
          (Project.warned (p.themeFor d).2) := by
  have htold : p.tell (p.themeNotices d) = .ok () := tell_eq_ok_iff.2 h
  have hquiet : p.tell (p.themeNotices (d.withTheme (p.themeFor d).1)) = .ok () := by
    rw [themeNotices, themeFor_withTheme]
    rfl
  have hwarnings : (p.normalized d).2 = (p.themeFor d).2 := rfl
  rw [runRead_eq_bind, runRead_eq_bind, htold, hquiet, normalized_withTheme, hwarnings, map_bind]
  refine bind_congr_of_eq_ok fun _ _ => ?_
  simp only [map_bind, assemble_append, List.nil_append]
  rfl

/-- A run that can tell of the name is the one with the data that give the name that counts from the
start, but for the warnings about the name. -/
theorem run_eq_warned (h : readUserData key data = .ok d) (template : Supplied Template)
    (generatedAt : String) (hprints : p.printer.Prints (p.themeNotices d)) :
    p.run template data generatedAt
      = (p.run template (data.setTheme (p.themeFor d).1) generatedAt).map
          (Project.warned (p.themeFor d).2) := by
  rw [run_eq_bind, run_eq_bind, map_bind]
  refine bind_congr_of_eq_ok fun t _ => ?_
  rw [map_bind]
  refine bind_congr_of_eq_ok fun _ _ => ?_
  have hd : readUserData t.key data = .ok d := readUserData_of_readUserData h
  rw [hd, readUserData_setTheme _ hd, map_bind, Except.mapError, Except.bind, Except.mapError,
    Except.bind]
  exact runRead_eq_warned t generatedAt hprints

theorem themeNotices_of_unknown {name : String} (h : d.theme = some name) (hname : name ≠ "")
    (hunknown : Entries.has p.registry.themes name = false) :
    p.themeNotices d = [p.unknownThemeNotice name] := by
  rw [themeNotices, themeFor_of_unknown h hname hunknown]
  rfl

private theorem run_ne_ok_of_unknown {name : String} (h : readUserData key data = .ok d)
    (htheme : d.theme = some name) (hname : name ≠ "")
    (hunknown : Entries.has p.registry.themes name = false)
    (hfault : p.printer.fault? (p.unknownThemeNotice name) ≠ none) (project : Project) :
    p.run template data generatedAt ≠ .ok project := by
  intro hrun
  obtain ⟨hprocess, htold⟩ := run_eq_ok_iff.1 hrun
  obtain ⟨t, d', s, skipped, made, ht, hd', -⟩ := process_eq_ok_iff.1 hprocess
  obtain rfl : d' = d := Except.ok.inj (hd'.symm.trans (readUserData_of_readUserData h))
  refine hfault (htold t d' ht hd' _ ?_)
  simp [runNotices, themeNotices_of_unknown htheme hname hunknown]

theorem themeName_normalized (p : Processor) (d : UserData) :
    p.themeName (p.normalized d).1 = (p.themeFor d).1 := by
  change ((some (p.themeFor d).1).filter (· != "")).getD p.registry.default = _
  by_cases hempty : (p.themeFor d).1 = ""
  · rw [default_eq_empty_of_themeFor hempty, hempty]
    rfl
  · simp [Option.filter_some, hempty]

private theorem customized_of_setting {s : Setting} {skipped : List String}
    (h : p.setting t d = .ok (s, skipped)) :
    p.registry.customized (some (p.themeName d)) d.customizations = .ok (s.theme, skipped) := by
  obtain ⟨theme, hcustomized, rfl⟩ := setting_eq_ok_iff.1 h
  exact hcustomized

/-- The theme of a run is the one in the registry of which the name counts, customized; the same
theme makes the skin of its files. -/
theorem exists_theme_of_setting {s : Setting} {skipped : List String}
    (h : p.setting t (p.normalized d).1 = .ok (s, skipped)) :
    ∃ base, p.registry.get? (p.themeFor d).1 = some base
      ∧ base.customized d.customizations = .ok (s.theme, skipped)
      ∧ p.registry.customized s.data.theme s.data.customizations = .ok (s.theme, skipped) := by
  obtain ⟨base, hbase⟩ := Option.isSome_iff_exists.1 (has_themeFor p d)
  have hcustomized := customized_of_setting h
  rw [themeName_normalized] at hcustomized
  have hown := ThemeRegistry.customized_of_get? hbase (p.normalized d).1.customizations
  refine ⟨base, hbase, hown.symm.trans hcustomized, ?_⟩
  rw [data_of_setting h]
  exact hcustomized

private theorem theme_of_requests {s : Setting} {skipped : List String} {q : Request}
    (ht : acceptTemplate template = .ok t) (hd : readUserData t.key data = .ok d)
    (hs : p.setting t (p.normalized d).1 = .ok (s, skipped)) (hq : p.Requests template data q) :
    q.theme = s.theme := by
  obtain ⟨t', d', s', skipped', f, ht', hd', hs', -, -, x, -, rfl⟩ := hq
  obtain rfl : t' = t := Except.ok.inj (ht'.symm.trans ht)
  obtain rfl : d' = d := Except.ok.inj (hd'.symm.trans hd)
  obtain ⟨rfl, -⟩ : s' = s ∧ skipped' = skipped := by
    simpa using hs'.symm.trans hs
  rfl

/-- The choice of a theme is a choice of its name. An unknown name is the fallback's with one more
warning, which comes first, if the notice about the name can be printed; if it cannot, no project is
made. A missing name is the default's. The theme that is named in a project is registered and,
customized, makes the class lists of the fallback and the skin of every file. -/
theorem run_theme_choice (p : Processor) (template : Supplied Template)
    (data : Supplied UserData) (generatedAt : String) {d : UserData}
    (h : readUserData "" data = .ok d) :
    (∀ name, d.theme = some name → name ≠ "" →
      Entries.has p.registry.themes name = false →
      (p.printer.fault? (p.unknownThemeNotice name) = none →
        p.run template data generatedAt
          = (p.run template (data.setTheme p.registry.fallback) generatedAt).map
              (Project.warned [p.unknownTheme name]))
      ∧ (p.printer.fault? (p.unknownThemeNotice name) ≠ none →
        ∀ project, p.run template data generatedAt ≠ .ok project))
    ∧ (d.theme = none ∨ d.theme = some "" →
      p.run template data generatedAt
        = p.run template (data.setTheme p.registry.default) generatedAt)
    ∧ ∀ project, p.run template data generatedAt = .ok project →
      project.info.themeApplied = project.manifest.theme
      ∧ ∃ t s skipped base, acceptTemplate template = .ok t
        ∧ p.setting t (p.normalized d).1 = .ok (s, skipped)
        ∧ p.registry.get? project.manifest.theme = some base
        ∧ base.customized d.customizations = .ok (s.theme, skipped)
        ∧ (∀ q, p.Requests template data q → Fallback.classes q
            = (q.placeholder.element.classes s.theme).map fun classes =>
                ClassToken.merge [s.theme.baseClasses, classes])
        ∧ ∃ file : SourceFile → ProcessedFile,
          project.files = t.initialVersion.sourceFiles.map file
          ∧ ∀ f ∈ t.initialVersion.sourceFiles, f.encoding = .utf8 →
            ∃ rendered count, p.renderSource s f = .ok (rendered, count)
              ∧ s.theme.reskin rendered = .ok (file f).content := by
  refine ⟨?_, ?_, ?_⟩
  · intro name htheme hname hunknown
    refine ⟨fun hprints => ?_, fun hfault project => ?_⟩
    · have htold : p.printer.Prints (p.themeNotices d) := by
        rw [themeNotices_of_unknown htheme hname hunknown]
        exact List.forall_mem_singleton.2 hprints
      have hwarned := run_eq_warned h template generatedAt htold
      rw [themeFor_of_unknown htheme hname hunknown] at hwarned
      exact hwarned
    · exact run_ne_ok_of_unknown h htheme hname hunknown hfault project
  · intro htheme
    have hmissing : d.theme.filter (· != "") = none := by
      rcases htheme with htheme | htheme <;> rw [htheme] <;> rfl
    have htold : p.printer.Prints (p.themeNotices d) := by
      rw [themeNotices, themeFor_of_missing hmissing]
      exact fun _ hn => nomatch hn
    have hwarned := run_eq_warned h template generatedAt htold
    rw [themeFor_of_missing hmissing] at hwarned
    refine hwarned.trans ?_
    cases p.run template (data.setTheme p.registry.default) generatedAt <;> rfl
  · intro project hproject
    obtain ⟨t, d', s, skipped, made, ht, hd', hs, hmade, rfl⟩ :=
      process_eq_ok_iff.1 (run_eq_ok_iff.1 hproject).1
    obtain rfl : d' = d := Except.ok.inj (hd'.symm.trans (readUserData_of_readUserData h))
    obtain ⟨base, hbase, hcustomized, hskin⟩ := exists_theme_of_setting hs
    have hname : (p.assemble t s made ((p.normalized d').2 ++ skipped) generatedAt).manifest.theme
        = (p.themeFor d').1 := by
      change p.themeName s.data = _
      rw [data_of_setting hs, themeName_normalized]
    obtain ⟨made, rfl, hfiles⟩ := exists_eq_map_of_mapM_eq_ok hmade
    refine ⟨rfl, t, s, skipped, base, ht, hs, by rw [hname]; exact hbase, hcustomized, ?_,
      fun f => (made f).1, by simp [assemble], ?_⟩
    · intro q hq
      rw [Fallback.classes, theme_of_requests ht hd' hs hq]
    · intro f hf hutf8
      obtain ⟨rendered, hrender, hcontent, -⟩ :=
        (madeFrom_of_processFile (hfiles f hf)).1.utf8 hutf8
      rw [ThemeRegistry.reskin_of_customized hskin] at hcontent
      exact ⟨rendered, _, hrender, hcontent⟩

/-- The built-in themes with the quiet one as the default. -/
def quietRegistry : ThemeRegistry :=
  { ThemeRegistry.builtin with default := "minimal", default_registered := rfl }

/-- A template with a class list and a colour that a theme exchanges. -/
def linkTemplate : Template where
  key := "shop"
  initialVersion :=
    { sourceFiles := [{ path := "index.html", content := "<a class='bg-blue-500 <tw/>'>" }] }

/-- Where the default is not the fallback, an unknown name is still the fallback's, and a missing
one the default's. -/
theorem run_theme_choice_quiet :
    run { registry := quietRegistry } (.record linkTemplate)
        (.raw (.obj [("theme", "neon")])) "now"
      = (run { registry := quietRegistry } (.record linkTemplate)
          (.raw (.obj [("theme", "modern")])) "now").map
            (Project.warned ["Unknown theme 'neon', using 'modern' instead"])
    ∧ run { registry := quietRegistry } (.record linkTemplate) (.raw .null) "now"
      = run { registry := quietRegistry } (.record linkTemplate)
          (.raw (.obj [("theme", "minimal")])) "now"
    ∧ ∃ project base, run { registry := quietRegistry } (.record linkTemplate) (.raw .null) "now"
        = .ok project
      ∧ project.info.themeApplied = project.manifest.theme
      ∧ quietRegistry.get? project.manifest.theme = some base := by
  have hneon : readUserData "" (.raw (.obj [("theme", .str "neon")]))
      = .ok { theme := some "neon" } := rfl
  have hnone : readUserData "" (.raw .null) = .ok {} := rfl
  have hrun : ∃ project, run { registry := quietRegistry } (.record linkTemplate) (.raw .null)
      "now" = .ok project := exists_eq_ok_of_isOk (by decide +kernel)
  obtain ⟨hunknown, -, -⟩ :=
    run_theme_choice { registry := quietRegistry } (.record linkTemplate) _ "now" hneon
  obtain ⟨-, hmissing, htheme⟩ :=
    run_theme_choice { registry := quietRegistry } (.record linkTemplate) _ "now" hnone
  obtain ⟨project, hproject⟩ := hrun
  obtain ⟨happlied, t, s, skipped, base, -, -, hbase, -⟩ := htheme project hproject
  exact ⟨(hunknown "neon" rfl (by decide) rfl).1 rfl, hmissing (.inl rfl),
    project, base, hproject, happlied, hbase⟩

/-- An unknown name that reads as a closing tag: no project is made, but one is made with the name
of the fallback. -/
theorem run_theme_closing_tag :
    (run { printer := .markup } (.record linkTemplate) (.raw (.obj [("theme", "[/x]")]))
        "now").isOk = false
    ∧ (run { printer := .markup } (.record linkTemplate) (.raw (.obj [("theme", "modern")]))
        "now").isOk = true :=
  ⟨by decide +kernel, by decide +kernel⟩

end Processor

end SiteTemplate
