import Mathlib.Data.List.Perm.Basic
import SiteTemplate.Proofs.Traversal
import SiteTemplate.Validation.RuleSet

/-!
# Rules do not disturb each other

What a rule contributes depends on how its own check ends and on nothing else; a check that fails
contributes one error in the name of its rule. The lists of a result are the contributions of all
rules one after the other, parted by severity. So a failing rule may be put in anywhere or taken
out: what the others contribute stays as it is. What may keep rules from a result is the notice
about one that fails, if it cannot be printed.
-/

namespace SiteTemplate

variable {files : List ProcessedFile} {c : Constraints}

namespace Rule

/-- What a rule with some name contributes, by the way in which its check ends. -/
inductive Contributes (name : String) : CheckOutcome → List Issue → Prop where
  | found (issues : List Issue) : Contributes name (.found issues) issues
  | nothing : Contributes name .nothing []
  | foundLater (issues : List Issue) : Contributes name (.deferred (.ok issues)) issues
  | failed (message : String) : Contributes name (.failed message) [failure name message]
  | failedLater (message : String) :
      Contributes name (.deferred (.error message)) [failure name message]

/-- The check fails with a message, at once or after its answer has been waited for. -/
def FailsWith (r : Rule) (files : List ProcessedFile) (c : Constraints) (message : String) : Prop :=
  (r.check files c).settled = .error message

private theorem contributes_issues (r : Rule) (files : List ProcessedFile) (c : Constraints) :
    Contributes r.name (r.check files c) (r.issues files c) := by
  unfold issues
  cases r.check files c with
  | found issues => exact .found issues
  | nothing => exact .nothing
  | failed m => exact .failed m
  | deferred later =>
    cases later with
    | ok issues => exact .foundLater issues
    | error m => exact .failedLater m

theorem issues_of_failsWith {r : Rule} {m : String} (h : r.FailsWith files c m) :
    r.issues files c = [failure r.name m] := by
  rw [issues, h]

theorem prints_notices_iff {printer : Printer} {verbose : Bool} {r : Rule} :
    printer.Prints (r.notices verbose files c) ↔
      (verbose = true → printer.fault? r.runningNotice = none)
      ∧ ∀ m, r.FailsWith files c m → printer.fault? (r.failureNotice m) = none := by
  rw [notices, Printer.Prints, List.forall_mem_append]
  refine and_congr (by cases verbose <;> simp) ?_
  unfold FailsWith
  cases (r.check files c).settled with
  | ok issues => simp
  | error m => simp

end Rule

namespace RuleSet

variable {s : RuleSet} {before after : List Rule} {r : Rule}

theorem ofSeverity_append (severity : Severity) (a b : List Issue) :
    ofSeverity severity (a ++ b) = ofSeverity severity a ++ ofSeverity severity b :=
  List.filter_append ..

private theorem ofSeverity_failure (severity : Severity) (name message : String) :
    ofSeverity severity [Rule.failure name message]
      = if severity = .error then [Rule.failure name message] else [] := by
  cases severity <;> rfl

private theorem ofSeverity_perm (issues : List Issue) :
    (ofSeverity .error issues ++ ofSeverity .warning issues ++ ofSeverity .info issues).Perm
      issues := by
  induction issues with
  | nil => exact .nil
  | cons i issues ih =>
    have hcons (severity : Severity) : ofSeverity severity (i :: issues)
        = if i.severity = severity then i :: ofSeverity severity issues
          else ofSeverity severity issues := by
      simp [ofSeverity, List.filter_cons]
    simp only [hcons]
    cases i.severity with
    | error => exact ih.cons i
    | warning =>
      rw [List.append_assoc] at ih ⊢
      exact List.perm_middle.trans (ih.cons i)
    | info => exact List.perm_middle.trans (ih.cons i)

/-- The issues of all rules, in the order of the rules. -/
def issues (s : RuleSet) (files : List ProcessedFile) (c : Constraints) : List Issue :=
  s.rules.flatMap fun r => r.issues files c

theorem flatMap_reports : (s.reports files c).flatMap (·.2) = s.issues files c := by
  rw [reports, List.flatMap_map, issues]

theorem reports_append : reports ⟨before ++ after⟩ files c
    = reports ⟨before⟩ files c ++ reports ⟨after⟩ files c :=
  List.map_append

theorem issues_append : issues ⟨before ++ after⟩ files c
    = issues ⟨before⟩ files c ++ issues ⟨after⟩ files c :=
  List.flatMap_append

private theorem issues_cons : issues ⟨r :: after⟩ files c
    = r.issues files c ++ issues ⟨after⟩ files c :=
  List.flatMap_cons

theorem errors_validate : (s.validate files c).errors = ofSeverity .error (s.issues files c) := by
  rw [← flatMap_reports]
  rfl

theorem warnings_validate :
    (s.validate files c).warnings = ofSeverity .warning (s.issues files c) := by
  rw [← flatMap_reports]
  rfl

theorem infos_validate : (s.validate files c).infos = ofSeverity .info (s.issues files c) := by
  rw [← flatMap_reports]
  rfl

private theorem validate_insert {m : String} (h : r.FailsWith files c m) (before after : List Rule)
    :
    (validate ⟨before ++ r :: after⟩ files c).errors
        = (validate ⟨before⟩ files c).errors
          ++ Rule.failure r.name m :: (validate ⟨after⟩ files c).errors
    ∧ (validate ⟨before ++ r :: after⟩ files c).warnings
        = (validate ⟨before ++ after⟩ files c).warnings
    ∧ (validate ⟨before ++ r :: after⟩ files c).infos
        = (validate ⟨before ++ after⟩ files c).infos := by
  simp only [errors_validate, warnings_validate, infos_validate, issues_append, issues_cons,
    Rule.issues_of_failsWith h, ofSeverity_append, ofSeverity_failure]
  exact ⟨rfl, rfl, rfl⟩

theorem run_eq_ok_iff {printer : Printer} {verbose : Bool} {result : ValidationResult} :
    s.run printer verbose files c = .ok result ↔
      printer.Prints (s.notices verbose files c) ∧ result = s.validate files c := by
  unfold run
  rw [bind_eq_ok_iff]
  constructor
  · rintro ⟨u, hprints, hvalidate⟩
    exact ⟨Printer.printAll_eq_ok_iff.1 hprints, (Except.ok.inj hvalidate).symm⟩
  · rintro ⟨hprints, rfl⟩
    exact ⟨(), Printer.printAll_eq_ok_iff.2 hprints, rfl⟩

theorem prints_notices_iff {printer : Printer} {verbose : Bool} :
    printer.Prints (s.notices verbose files c) ↔ ∀ r ∈ s.rules,
      (verbose = true → printer.fault? r.runningNotice = none)
      ∧ ∀ m, r.FailsWith files c m → printer.fault? (r.failureNotice m) = none := by
  simp only [← Rule.prints_notices_iff]
  constructor
  · exact fun h r hr n hn => h n (List.mem_flatMap.2 ⟨r, hr, hn⟩)
  · intro h n hn
    obtain ⟨r, hr, hn⟩ := List.mem_flatMap.1 hn
    exact h r hr n hn

/-- Every rule contributes what its own check leaves behind, which for a failing check is one error
in the name of the rule. Rules have a result exactly if what is told about those that fail, and
about each that runs if the run is verbose, can be printed. The result lists the contributions of
all rules in their order, parted by severity, and it is valid if there are no errors. A failing rule
that is put in or taken out anywhere changes nothing in what the others contribute. -/
theorem run_isolates (printer : Printer) (verbose : Bool) (files : List ProcessedFile)
    (c : Constraints) :
    (∀ r : Rule, Rule.Contributes r.name (r.check files c) (r.issues files c))
    ∧ (∀ (r : Rule) (m : String), r.FailsWith files c m →
      ∃ i : Issue, r.issues files c = [i] ∧ i.severity = .error ∧ i.rule = r.name)
    ∧ (∀ s : RuleSet,
      ((∃ result, s.run printer verbose files c = .ok result) ↔ ∀ r ∈ s.rules,
        (verbose = true → printer.fault? r.runningNotice = none)
        ∧ ∀ m, r.FailsWith files c m → printer.fault? (r.failureNotice m) = none)
      ∧ (s.reports files c = s.rules.map fun r => (r.name, r.issues files c))
      ∧ ∀ result, s.run printer verbose files c = .ok result →
        result.errors = (s.issues files c).filter (·.severity == .error)
        ∧ result.warnings = (s.issues files c).filter (·.severity == .warning)
        ∧ result.infos = (s.issues files c).filter (·.severity == .info)
        ∧ result.issues.Perm (s.issues files c)
        ∧ (result.isValid = true ↔ result.errors = []))
    ∧ ∀ (before after : List Rule) (r : Rule) (m : String), r.FailsWith files c m →
      reports ⟨before ++ r :: after⟩ files c
          = reports ⟨before⟩ files c
            ++ (r.name, [Rule.failure r.name m]) :: reports ⟨after⟩ files c
      ∧ reports ⟨before ++ after⟩ files c
          = reports ⟨before⟩ files c ++ reports ⟨after⟩ files c
      ∧ ∀ result, run ⟨before ++ r :: after⟩ printer verbose files c = .ok result →
        ∃ without, run ⟨before ++ after⟩ printer verbose files c = .ok without
          ∧ result.errors = (issues ⟨before⟩ files c).filter (·.severity == .error)
            ++ Rule.failure r.name m :: (issues ⟨after⟩ files c).filter (·.severity == .error)
          ∧ without.errors = (issues ⟨before⟩ files c).filter (·.severity == .error)
            ++ (issues ⟨after⟩ files c).filter (·.severity == .error)
          ∧ result.warnings = without.warnings ∧ result.infos = without.infos := by
  refine ⟨fun r => r.contributes_issues files c, ?_, ?_, ?_⟩
  · intro r m h
    exact ⟨Rule.failure r.name m, Rule.issues_of_failsWith h, rfl, rfl⟩
  · intro s
    refine ⟨?_, rfl, fun result hresult => ?_⟩
    · simp only [run_eq_ok_iff, exists_and_left, exists_eq, and_true, prints_notices_iff]
    · obtain ⟨-, rfl⟩ := run_eq_ok_iff.1 hresult
      refine ⟨errors_validate, warnings_validate, infos_validate, ?_, List.isEmpty_iff⟩
      rw [ValidationResult.issues, errors_validate, warnings_validate, infos_validate]
      exact ofSeverity_perm (s.issues files c)
  · intro before after r m h
    refine ⟨?_, reports_append, fun result hresult => ?_⟩
    · rw [reports_append, ← Rule.issues_of_failsWith h]
      rfl
    · obtain ⟨hprints, rfl⟩ := run_eq_ok_iff.1 hresult
      obtain ⟨herrors, hwarnings, hinfos⟩ := validate_insert h before after
      have hothers : Printer.Prints printer (notices ⟨before ++ after⟩ verbose files c) := by
        rw [prints_notices_iff] at hprints ⊢
        exact fun t ht => hprints t (by simp at ht ⊢; tauto)
      refine ⟨_, run_eq_ok_iff.2 ⟨hothers, rfl⟩, ?_, ?_, hwarnings, hinfos⟩
      · rw [herrors, errors_validate, errors_validate]
        rfl
      · rw [errors_validate, issues_append, ofSeverity_append]
        rfl

/-- A rule whose check fails on all files. -/
def brokenRule : Rule where
  sort := "FunctionRule"
  name := "broken"
  check _ _ := .failed "out of range"

/-- A failing rule between the standard ones and a second failing one. -/
theorem run_isolates_broken :
    brokenRule.FailsWith [] {} "out of range"
    ∧ ∃ result, run ⟨standard.rules ++ brokenRule :: [brokenRule]⟩ .plain false [] {} = .ok result
      ∧ result.errors = (issues standard [] {}).filter (·.severity == .error)
        ++ Rule.failure "broken" "out of range"
          :: (issues ⟨[brokenRule]⟩ [] {}).filter (·.severity == .error) := by
  obtain ⟨-, -, hrun, hinsert⟩ := run_isolates .plain false [] {}
  have hfails : brokenRule.FailsWith [] {} "out of range" := rfl
  obtain ⟨result, hresult⟩ := (hrun ⟨standard.rules ++ brokenRule :: [brokenRule]⟩).1.2
    fun r _ => ⟨fun _ => rfl, fun _ _ => rfl⟩
  obtain ⟨-, -, hlists⟩ := hinsert standard.rules [brokenRule] brokenRule _ hfails
  obtain ⟨without, -, herrors, -⟩ := hlists result hresult
  exact ⟨hfails, result, hresult, herrors⟩

/-- A rule that fails with a message which reads as a closing tag: there is no result. -/
theorem run_closing_tag :
    run ⟨[{ brokenRule with check := fun _ _ => .failed "[/x]" }]⟩ .markup false [] {}
      = .error "closing tag '[/x]' at position 38 doesn't match any open tag" := by
  rfl

end RuleSet

end SiteTemplate
