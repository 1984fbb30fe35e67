import SiteTemplate.Proofs.RoundingError
import SiteTemplate.Proofs.RuleIsolation
import SiteTemplate.Proofs.Traversal

/-!
# The rules that count towards a score

Points are kept by name, so of several rules with one name only the last counts. The overall score
is the mean of the points of the rules that count, to the nearest tenth. All rules count exactly
where no name occurs twice; this stays so as rules are removed, and as rules are added under names
that are not in use.
-/

namespace SiteTemplate

namespace Entries

variable {κ α : Type} [DecidableEq κ] {es : Entries κ α}

private theorem put_perm (hkeys : (keys es).Nodup) (k : κ) (a : α) :
    (put k a es).Perm (es.filter (fun e => e.1 ≠ k) ++ [(k, a)]) := by
  induction es with
  | nil => exact .refl _
  | cons e es ih =>
    obtain ⟨k', b⟩ := e
    obtain ⟨hnew, hkeys⟩ := List.nodup_cons.1 hkeys
    by_cases hk : k' = k
    · subst hk
      have hkeep : es.filter (fun e => e.1 ≠ k') = es := by
        refine List.filter_eq_self.2 fun e he => ?_
        have hmem : e.1 ∈ keys es := List.mem_map_of_mem he
        simpa using ne_of_mem_of_not_mem hmem hnew
      rw [put, if_pos (beq_self_eq_true k'), List.filter_cons_of_neg (by simp), hkeep]
      exact (List.perm_append_singleton _ _).symm
    · rw [put, if_neg (by simpa using hk), List.filter_cons_of_pos (by simpa using hk)]
      exact (ih hkeys).cons _

private theorem ofList_perm (settings : List (κ × α)) :
    (ofList settings).Perm (lastBy Prod.fst settings) := by
  induction settings using List.reverseRecOn with
  | nil => exact .refl _
  | append_singleton settings e ih =>
    have hkeys : (keys (ofList settings)).Nodup := (ih.map _).nodup_iff.2 nodup_map_lastBy
    have hlast : ofList (settings ++ [e]) = put e.1 e.2 (ofList settings) := List.foldl_concat ..
    rw [hlast, lastBy_concat]
    exact (put_perm hkeys e.1 e.2).trans ((ih.filter _).append_right _)

end Entries

namespace Score

variable {as bs : List Nat}

private theorem total_eq_of_perm (h : as.Perm bs) : total as = total bs := by
  induction h with
  | nil => rfl
  | cons n _ ih => rw [total, total, ih]
  | swap m n _ => simp only [total, Nat.add_left_comm]
  | trans _ _ ih ih' => exact ih.trans ih'

private theorem mean_eq_of_perm (h : as.Perm bs) : mean as = mean bs := by
  have hempty : as.isEmpty = bs.isEmpty := by
    rw [Bool.eq_iff_iff, List.isEmpty_iff, List.isEmpty_iff, ← List.length_eq_zero_iff,
      h.length_eq, List.length_eq_zero_iff]
  rw [mean, mean, hempty, total_eq_of_perm h, h.length_eq]

private theorem total_le (h : ∀ n ∈ as, n ≤ 100) : total as ≤ 100 * as.length := by
  induction as with
  | nil => exact Nat.le_refl 0
  | cons n as ih =>
    obtain ⟨hn, has⟩ := List.forall_mem_cons.1 h
    have htotal := ih has
    rw [total, List.length_cons]
    omega

private theorem abs_sub_tenths_le {sum count n : Nat} {q : ℚ} (hpos : 0 < count)
    (hcount : count ≤ 2 ^ 40)
    (hq : |q - sum / count| ≤ 2 ^ (-46 : Int) / 2) (hn : |(n : ℚ) - q * 10| ≤ 1 / 2) :
    |(sum : ℚ) / count - n / 10| ≤ 1 / 20 := by
  have hpos' : (0 : ℚ) < count := by exact_mod_cast hpos
  have hcount' : (count : ℚ) ≤ 2 ^ 40 := by exact_mod_cast hcount
  have hnear : |(sum : ℚ) / count * 10 - n| ≤ 1 / 2 + 2 ^ (-46 : Int) * 5 := by
    calc |(sum : ℚ) / count * 10 - n|
        = |((n : ℚ) - q * 10) + (q - sum / count) * 10| := by
          rw [abs_sub_comm]
          ring_nf
      _ ≤ |(n : ℚ) - q * 10| + |q - sum / count| * 10 := by
          refine (abs_add_le _ _).trans_eq ?_
          rw [abs_mul, abs_of_pos (by norm_num : (0 : ℚ) < 10)]
      _ ≤ 1 / 2 + 2 ^ (-46 : Int) * 5 := by linarith
  -- Counted in parts of one over the count, ten times the distance is a whole number.
  have hwhole : 2 * |(sum : Int) * 10 - n * count| < count + 1 := by
    have hscaled : |(sum : ℚ) * 10 - n * count| = |(sum : ℚ) / count * 10 - n| * count := by
      rw [← abs_of_pos hpos', ← abs_mul, abs_of_pos hpos']
      congr 1
      field_simp
    have hle : 2 * |(sum : ℚ) * 10 - n * count| < count + 1 := by
      rw [hscaled]
      norm_num at hnear
      nlinarith
    exact_mod_cast hle
  have hle : 2 * |(sum : ℚ) * 10 - n * count| ≤ count := by
    exact_mod_cast Int.lt_add_one_iff.1 hwhole
  have hquotient : (sum : ℚ) / count - n / 10 = (sum * 10 - n * count) / (count * 10) := by
    field_simp
  rw [hquotient, abs_div, abs_of_pos (by positivity : (0 : ℚ) < count * 10),
    div_le_iff₀ (by positivity)]
  linarith

/-- A score that is the nearest tenth to the mean of others, or a hundred where there are none. -/
def IsMean (score : Binary64) (scores : List Nat) : Prop :=
  (scores = [] → score = .ofInt 100)
  ∧ (scores ≠ [] → ∃ tenths : Nat, score = .ofRatio false tenths 10
    ∧ |(total scores : ℚ) / scores.length - tenths / 10| ≤ 1 / 20)

/-- Neither of the two roundings on the way to the score of fewer than a million million rules takes
it away from the nearest tenth. -/
theorem isMean_mean (h : ∀ n ∈ as, n ≤ 100) (hlength : as.length ≤ 2 ^ 40) :
    IsMean (mean as) as := by
  refine ⟨fun hnil => by rw [hnil, mean_nil], fun hne => ?_⟩
  have hpos : 0 < as.length := List.length_pos_of_ne_nil hne
  have htotal := total_le h
  have hcount : (0 : ℚ) < as.length := by exact_mod_cast hpos
  have hquotient : (0 : ℚ) ≤ total as / as.length := by positivity
  have hlimit : (total as : ℚ) / as.length < 2 ^ ((-46 : Int) + 53) := by
    rw [div_lt_iff₀ hcount]
    have htotal' : (total as : ℚ) ≤ 100 * as.length := by exact_mod_cast htotal
    norm_num
    linarith
  have hmean : mean as = (Binary64.ofRat (total as / as.length)).roundedTo 1 := by
    rw [mean, if_neg (by simpa using hne), Binary64.div,
      Binary64.toRat_ofInt (by omega), Binary64.toRat_ofInt (by omega)]
  have hnear := Binary64.abs_toRat_ofRat_sub_le (by norm_num) (by norm_num) hquotient hlimit
  have hatMost := Binary64.ofRat_atMost hquotient le_rfl
  have hnonneg := hatMost.toRat_nonneg
  generalize Binary64.ofRat (total as / as.length) = x at hmean hnear hatMost hnonneg
  have hten : tenTo 1 = 10 := rfl
  have hround := Binary64.abs_roundRat_sub_le (x := x.toRat * 10) (by positivity)
  obtain ⟨tenths, htenths⟩ :=
    Int.eq_ofNat_of_zero_le (Binary64.roundRat_nonneg (x := x.toRat * 10) (by positivity))
  refine ⟨tenths, ?_, abs_sub_tenths_le hpos hlength hnear ?_⟩
  · rw [hmean, Binary64.roundedTo, hatMost.isNegative_eq_false.1, hten, Nat.cast_ofNat, htenths,
      Int.natAbs_natCast]
  · rwa [htenths, Int.cast_natCast] at hround

/-- The number of issues of a severity. -/
def count (severity : Severity) (issues : List Issue) : Nat :=
  issues.countP fun i => i.severity = severity

private theorem penalty_eq (issues : List Issue) :
    penalty issues = 20 * count .error issues + 10 * count .warning issues
      + 5 * count .info issues := by
  induction issues with
  | nil => rfl
  | cons i issues ih =>
    simp only [penalty_cons, ih, count, List.countP_cons]
    cases i.severity <;> simp [Severity.penalty] <;> omega

end Score

/-- A hundred points, less twenty for each error, ten for each warning and five for any other issue
of the rule, but never fewer than none. -/
def Rule.score (r : Rule) (files : List ProcessedFile) (c : Constraints) : Nat :=
  100 - (20 * Score.count .error (r.issues files c) + 10 * Score.count .warning (r.issues files c)
    + 5 * Score.count .info (r.issues files c))

namespace Rule

variable (r : Rule) (files : List ProcessedFile) (c : Constraints)

private theorem points_issues : Score.points (r.issues files c) = r.score files c := by
  rw [Score.points, Score.penalty_eq, score]

private theorem score_le_hundred : r.score files c ≤ 100 := Nat.sub_le ..

end Rule

namespace RuleSet

variable {s : RuleSet} {before after : List Rule} {r : Rule} {files : List ProcessedFile}
  {c : Constraints}

/-- The rules whose name no later rule has. -/
def counted (s : RuleSet) : List Rule := lastBy Rule.name s.rules

theorem counted_eq_rules_iff : s.counted = s.rules ↔ s.names.Nodup := lastBy_eq_self_iff

private theorem values_points_perm : (points (s.reports files c)).values.Perm
    (s.counted.map fun r => r.score files c) := by
  have hpoints : points (s.reports files c)
      = .ofList (s.rules.map fun r => (r.name, r.score files c)) := by
    simp only [points, reports, List.map_map, Function.comp_def, Rule.points_issues]
  have hlast : lastBy Prod.fst (s.rules.map fun r => (r.name, r.score files c))
      = s.counted.map fun r => (r.name, r.score files c) :=
    List.pwFilter_map _ _
  have hperm := (Entries.ofList_perm (s.rules.map fun r => (r.name, r.score files c))).map Prod.snd
  rw [hlast, List.map_map] at hperm
  rw [hpoints]
  exact hperm

theorem score_validate :
    (s.validate files c).score = Score.mean (s.counted.map fun r => r.score files c) :=
  Score.mean_eq_of_perm values_points_perm

private theorem score_validate_append_cons (h : r.name ∈ names ⟨after⟩) :
    (validate ⟨before ++ r :: after⟩ files c).score
      = (validate ⟨before ++ after⟩ files c).score := by
  rw [score_validate, score_validate, counted, counted, lastBy_append_cons h]

/-- A change to a rule set. -/
inductive Edit where
  | add (r : Rule)
  | remove (name : String)

def edit (s : RuleSet) : Edit → RuleSet
  | .add r => s.add r
  | .remove name => s.remove name

/-- Several changes, one after the other. -/
def editAll (s : RuleSet) (edits : List Edit) : RuleSet := edits.foldl edit s

/-- A rule is only added under a name that is not in use. -/
def Edit.Fresh (s : RuleSet) : Edit → Prop
  | .add r => r.name ∉ s.names
  | .remove _ => True

/-- Each rule is only added under a name that is not in use at that time. -/
def AllFresh (s : RuleSet) : List Edit → Prop
  | [] => True
  | e :: edits => e.Fresh s ∧ AllFresh (s.edit e) edits

private theorem nodup_names_edit {e : Edit} (hnames : s.names.Nodup) (h : e.Fresh s) :
    (s.edit e).names.Nodup := by
  cases e with
  | add r =>
    rw [edit, names, rules_add, List.map_append, List.map_singleton, List.nodup_append]
    refine ⟨hnames, List.nodup_singleton _, ?_⟩
    intro name hname other hother
    rw [List.mem_singleton.1 hother]
    exact ne_of_mem_of_not_mem hname h
  | remove name => exact hnames.sublist (List.filter_sublist.map _)

private theorem nodup_names_editAll {edits : List Edit} (hnames : s.names.Nodup)
    (h : s.AllFresh edits) :
    (s.editAll edits).names.Nodup := by
  induction edits generalizing s with
  | nil => exact hnames
  | cons e edits ih =>
    obtain ⟨hfresh, hrest⟩ := h
    exact ih (nodup_names_edit hnames hfresh) hrest

/-- After any changes to a rule set, the overall score is the mean, to the nearest tenth, over the
rules whose name no later rule has, and a hundred where there are no rules. These are all rules
exactly where no name occurs twice, and so they are if the names were distinct at first and rules
were only added under new names. Any other rule may find what it likes: without it the score is the
same. -/
theorem score_editAll (start : RuleSet) (edits : List Edit) (files : List ProcessedFile)
    (c : Constraints) : ∀ s, s = start.editAll edits →
      (s.validate files c).score = Score.mean (s.counted.map fun r => r.score files c)
      ∧ (s.counted.length ≤ 2 ^ 40 →
        Score.IsMean (s.validate files c).score (s.counted.map fun r => r.score files c))
      ∧ (s.rules = [] → (s.validate files c).score = .ofInt 100)
      ∧ s.counted.Sublist s.rules
      ∧ (∀ r ∈ s.rules, ∃ r' ∈ s.counted, r'.name = r.name)
      ∧ (s.counted = s.rules ↔ s.names.Nodup)
      ∧ (start.names.Nodup → start.AllFresh edits → s.counted = s.rules)
      ∧ ∀ (before after : List Rule) (r : Rule), s.rules = before ++ r :: after →
        r.name ∈ names ⟨after⟩ →
        (s.validate files c).score = (validate ⟨before ++ after⟩ files c).score := by
  intro s hs
  refine ⟨score_validate, ?_, ?_, lastBy_sublist, fun r hr => exists_mem_lastBy hr,
    counted_eq_rules_iff, ?_, ?_⟩
  · intro hlength
    rw [score_validate]
    refine Score.isMean_mean (List.forall_mem_map.2 fun r _ => r.score_le_hundred files c) ?_
    rwa [List.length_map]
  · intro hnone
    have hcounted : s.counted = [] := by
      rw [counted, hnone]
      rfl
    rw [score_validate, hcounted, List.map_nil, Score.mean_nil]
  · intro hnames hfresh
    rw [hs]
    exact counted_eq_rules_iff.2 (nodup_names_editAll hnames hfresh)
  · intro before after r hrules hlater
    have hset : s = ⟨before ++ r :: after⟩ := by rw [← hrules]
    rw [hset, score_validate_append_cons hlater]

/-- A rule with the name of the failing one that has nothing to say. -/
def quietRule : Rule where
  sort := "FunctionRule"
  name := "broken"
  check _ _ := .nothing

/-- A failing rule costs the standard ones points, and a quiet one of the same name pays them
back. -/
theorem score_editAll_broken :
    (∃ s, s = standard.editAll [.remove Content.ruleName, .add brokenRule] ∧ s.counted = s.rules
      ∧ Score.IsMean (s.validate [] {}).score (s.counted.map fun r => r.score [] {}))
    ∧ (validate ⟨[brokenRule, quietRule]⟩ [] {}).score = (validate ⟨[quietRule]⟩ [] {}).score := by
  obtain ⟨-, hmean, -, -, -, -, hfresh, -⟩ :=
    score_editAll standard [.remove Content.ruleName, .add brokenRule] [] {} _ rfl
  obtain ⟨-, -, -, -, -, -, -, hlater⟩ :=
    score_editAll ⟨[brokenRule, quietRule]⟩ [] [] {} _ rfl
  have hnames : standard.names.Nodup := by decide
  have hnew : brokenRule.name ∉ (standard.remove Content.ruleName).names := by decide
  have hcounted := hfresh hnames ⟨trivial, hnew, trivial⟩
  have hlength :
      (standard.editAll [.remove Content.ruleName, .add brokenRule]).rules.length = 7 := by decide
  refine ⟨⟨_, rfl, hcounted, hmean ?_⟩, ?_⟩
  · rw [hcounted, hlength]
    norm_num
  · exact hlater [] [quietRule] brokenRule rfl (by decide)

/-- The failure of the first rule is told as an error, and the score is not the mean of both. -/
theorem not_isMean_score_editAll :
    ∃ s, s = editAll ⟨[]⟩ [.add brokenRule, .add quietRule]
      ∧ (s.rules.map fun r => r.score [] {}) = [80, 100]
      ∧ (s.validate [] {}).score = .ofInt 100
      ∧ ¬ Score.IsMean (s.validate [] {}).score (s.rules.map fun r => r.score [] {}) := by
  have hscores : ((editAll ⟨[]⟩ [.add brokenRule, .add quietRule]).rules.map
      fun r => r.score [] {}) = [80, 100] := by decide +kernel
  have hscore : ((editAll ⟨[]⟩ [.add brokenRule, .add quietRule]).validate [] {}).score
      = .ofInt 100 := by decide +kernel
  refine ⟨_, rfl, hscores, hscore, ?_⟩
  rw [hscores, hscore]
  rintro ⟨-, hmean⟩
  obtain ⟨tenths, htenths, hnear⟩ := hmean (by decide)
  obtain ⟨hlow, hhigh⟩ := abs_le.1 hnear
  have hbelow : (tenths : ℚ) < 901 := by
    norm_num [Score.total] at hlow
    linarith
  have habove : (899 : ℚ) < tenths := by
    norm_num [Score.total] at hhigh
    linarith
  have hnine : tenths = 900 := by
    have hbelow' : tenths < 901 := by exact_mod_cast hbelow
    have habove' : 899 < tenths := by exact_mod_cast habove
    omega
  rw [hnine] at htenths
  exact absurd htenths (by decide +kernel)

end RuleSet

end SiteTemplate
