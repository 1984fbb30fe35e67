import SiteTemplate.ClassToken
import SiteTemplate.Proofs.Scanning
import SiteTemplate.Theme.Registry

/-!
# Class lists and the parts of tokens

Lists are read word by word, so a list that is put together from two is read as both, one after the
other. In a merged list the tokens of the later part all have their say, and those of the earlier
part do if the later one says nothing about their property.

A token is cut after its last colon outside brackets, however its brackets are balanced. What
precedes the cut leaves no bracket open, so that another utility can be put behind the same
variants.
-/

namespace SiteTemplate

open Text

theorem Text.words_append_blank {c : Char} (hc : isBlank c = true) (a b : List Char) :
    words (a ++ c :: b) = words a ++ words b := by
  rw [words, List.splitOnP_append_cons a b hc, List.filter_append]
  rfl

theorem Text.words_eq_singleton {cs : List Char} (hne : cs ≠ [])
    (h : ∀ c ∈ cs, isBlank c = false) : words cs = [cs] := by
  rw [words, List.splitOnP_eq_singleton h]
  simp [hne]

namespace ClassToken

variable {cs : List Char}

theorem ofList_append_blank {c : Char} (hc : isBlank c = true) (a b : List Char) :
    ofList (a ++ c :: b) = ofList a ++ ofList b := by
  rw [ofList, words_append_blank hc, List.filterMap_append]
  rfl

theorem ofList_of_parse? {t : ClassToken} (hne : cs ≠ []) (h : ∀ c ∈ cs, isBlank c = false)
    (ht : parse? cs = some t) : ofList cs = [t] := by
  rw [ofList, words_eq_singleton hne h, List.filterMap_cons_some ht, List.filterMap_nil]

/-- Of the tokens of two lists, those of the first survive that do not conflict with one of the
second. -/
theorem lastWords_append (ts us : List ClassToken) :
    lastWords (ts ++ us)
      = (lastWords ts).filter (fun t => !us.any (conflicts t)) ++ lastWords us := by
  induction ts with
  | nil => rfl
  | cons t ts ih =>
    rw [List.cons_append, lastWords_cons, lastWords_cons, List.any_append, ih]
    cases hts : ts.any (conflicts t) with
    | true => simp
    | false =>
      cases hus : us.any (conflicts t) with
      | true => simp [hus]
      | false => simp [hus]

theorem cutFrom_eq {depth index cut : Nat} (h : ':' ∉ cs) : cutFrom depth index cut cs = cut := by
  induction cs generalizing depth index with
  | nil => rfl
  | cons c cs ih =>
    rw [List.mem_cons, not_or] at h
    have hc : ¬ (c = ':' ∧ depth = 0) := fun hcolon => h.1 hcolon.1.symm
    rw [cutFrom, ih h.2, ih h.2, ih h.2, if_neg hc]
    split_ifs <;> rfl

theorem splitVariants_eq (h : ':' ∉ cs) : splitVariants cs = ([], cs) := by
  simp [splitVariants, cutFrom_eq h]

theorem occursIn_eq_false {c : Char} (needle : List Char) (h : c ∉ cs) :
    occursIn (c :: needle) cs = false := by
  induction cs with
  | nil => rfl
  | cons x cs ih =>
    rw [List.mem_cons, not_or] at h
    have hx : (c == x) = false := by simpa using h.1
    simp [occursIn, List.isPrefixOf, hx, ih h.2]

theorem dropFinalNewline_concat {c : Char} (hc : c ≠ '\n') (cs : List Char) :
    dropFinalNewline (cs ++ [c]) = cs ++ [c] := by
  have hreverse : (cs ++ [c]).reverse = c :: cs.reverse := by simp
  rw [dropFinalNewline, hreverse]
  split
  · next rest hrest => exact absurd (List.cons.inj hrest).1 hc
  · rfl

theorem parse?_eq {variants utility : List Char} (hblank : ∀ c ∈ cs, isBlank c = false)
    (hwell : isMalformed cs = false) (hsplit : splitVariants cs = (variants, utility)) :
    parse? cs
      = some ⟨.ofList cs, variantNames variants, .ofList utility, classify utility⟩ := by
  simp only [parse?, trim_eq_self hblank, hwell, hsplit, Bool.false_eq_true, if_false]

end ClassToken

end SiteTemplate

namespace SiteTemplate.ClassToken

variable {cs a b : List Char} {c : Char} {depth index cut : Nat}

/-- The bracket depth behind a character. -/
def nextDepth (depth : Nat) (c : Char) : Nat :=
  if c = '[' then depth + 1 else if c = ']' then depth - 1 else depth

/-- The bracket depth behind a text. -/
def depthAfter (depth : Nat) (cs : List Char) : Nat := cs.foldl nextDepth depth

theorem nextDepth_colon (depth : Nat) : nextDepth depth ':' = depth := rfl

theorem cutFrom_cons (depth index cut : Nat) (c : Char) (cs : List Char) :
    cutFrom depth index cut (c :: cs)
      = cutFrom (nextDepth depth c) (index + 1) (if c = ':' ∧ depth = 0 then index + 1 else cut)
          cs := by
  rw [cutFrom, nextDepth]
  split_ifs with hopen hclose hcolon <;> simp_all

theorem cutFrom_append (depth index cut : Nat) (a b : List Char) :
    cutFrom depth index cut (a ++ b)
      = cutFrom (depthAfter depth a) (index + a.length) (cutFrom depth index cut a) b := by
  induction a generalizing depth index cut with
  | nil => rfl
  | cons c a ih =>
    rw [List.cons_append, cutFrom_cons, cutFrom_cons, ih, List.length_cons, Nat.add_assoc,
      Nat.add_comm 1]
    rfl

/-- A text has no colon outside brackets, if it begins at the given depth. -/
def NoCut (depth : Nat) (cs : List Char) : Prop :=
  ∀ index cut, cutFrom depth index cut cs = cut

theorem noCut_of_not_mem (h : ':' ∉ cs) : NoCut depth cs := fun _ _ => cutFrom_eq h

private theorem noCut_cons (hc : ¬ (c = ':' ∧ depth = 0)) (h : NoCut (nextDepth depth c) cs) :
    NoCut depth (c :: cs) := by
  intro index cut
  rw [cutFrom_cons, if_neg hc]
  exact h _ _

/-- A text has no colon outside brackets, or a last one. -/
theorem noCut_or_exists (depth : Nat) (cs : List Char) :
    NoCut depth cs ∨ ∃ a b, cs = a ++ ':' :: b ∧ depthAfter depth a = 0 ∧ NoCut 0 b := by
  induction cs generalizing depth with
  | nil => exact .inl fun _ _ => rfl
  | cons c cs ih =>
    rcases ih (nextDepth depth c) with hnone | ⟨a, b, rfl, ha, hb⟩
    · by_cases hc : c = ':' ∧ depth = 0
      · obtain ⟨rfl, rfl⟩ := hc
        exact .inr ⟨[], cs, rfl, rfl, hnone⟩
      · exact .inl (noCut_cons hc hnone)
    · exact .inr ⟨c :: a, b, rfl, ha, hb⟩

theorem splitVariants_of_noCut (h : NoCut 0 cs) : splitVariants cs = ([], cs) := by
  simp [splitVariants, h 0 0]

theorem splitVariants_cut (ha : depthAfter 0 a = 0) (hb : NoCut 0 b) :
    splitVariants (a ++ ':' :: b) = (a ++ [':'], b) := by
  have hcut : cutFrom 0 0 0 (a ++ ':' :: b) = a.length + 1 := by
    rw [cutFrom_append, ha, cutFrom_cons, nextDepth_colon, hb, if_pos ⟨rfl, rfl⟩, Nat.zero_add]
  have hsplit : a ++ ':' :: b = (a ++ [':']) ++ b := by simp
  have hlength : a.length + 1 = (a ++ [':']).length := by simp
  rw [splitVariants, hcut, hsplit, hlength, List.take_left, List.drop_left]

/-- Another utility behind the variants of a token is cut off where the old one was. -/
theorem splitVariants_exchange (cs : List Char) {v : List Char} (hv : NoCut 0 v) :
    splitVariants ((splitVariants cs).1 ++ v) = ((splitVariants cs).1, v) := by
  rcases noCut_or_exists 0 cs with hnone | ⟨a, b, rfl, ha, hb⟩
  · rw [splitVariants_of_noCut hnone, List.nil_append, splitVariants_of_noCut hv]
  · rw [splitVariants_cut ha hb, List.append_assoc, List.singleton_append, splitVariants_cut ha hv]

theorem depthAfter_append (depth : Nat) (a b : List Char) :
    depthAfter depth (a ++ b) = depthAfter (depthAfter depth a) b := List.foldl_append

private theorem le_cutFrom (h : cut ≤ index) : cut ≤ cutFrom depth index cut cs := by
  induction cs generalizing depth index cut with
  | nil => exact le_rfl
  | cons c cs ih =>
    rw [cutFrom_cons]
    split_ifs
    · exact (Nat.le_succ_of_le h).trans (ih le_rfl)
    · exact ih (Nat.le_succ_of_le h)

theorem noCut_iff : NoCut depth cs ↔ ∀ a b, cs = a ++ ':' :: b → depthAfter depth a ≠ 0 := by
  constructor
  · rintro hnone a b rfl ha
    have hcut : cutFrom 0 (0 + a.length + 1) (0 + a.length + 1) b = 0 := by
      simpa only [cutFrom_append, cutFrom_cons, ha, nextDepth_colon, and_self, if_true]
        using hnone 0 0
    have hle : 0 + a.length + 1 ≤ cutFrom 0 (0 + a.length + 1) (0 + a.length + 1) b :=
      le_cutFrom le_rfl
    omega
  · intro hcolon
    rcases noCut_or_exists depth cs with hnone | ⟨a, b, rfl, ha, -⟩
    · exact hnone
    · exact absurd ha (hcolon a b rfl)

private theorem splitVariants_eq_nil_iff : splitVariants cs = ([], cs) ↔ NoCut 0 cs := by
  refine ⟨fun h => ?_, splitVariants_of_noCut⟩
  rcases noCut_or_exists 0 cs with hnone | ⟨a, b, rfl, ha, hb⟩
  · exact hnone
  · rw [splitVariants_cut ha hb] at h
    exact absurd (Prod.ext_iff.1 h).1 (by simp)

private theorem lt_length_of_outside {v w : List Char} (hb : NoCut 0 b) (ha : depthAfter 0 a = 0)
    (h : a ++ ':' :: b = v ++ ':' :: w) (hv : depthAfter 0 v = 0) :
    v.length < (a ++ [':']).length := by
  by_contra hle
  have hparts : a ++ [':'] ++ b = v ++ ':' :: w := by simpa using h
  -- A later colon would stand in the utility, behind a part `x` of it that closes its brackets.
  obtain ⟨x, rfl⟩ : a ++ [':'] <+: v :=
    List.prefix_of_prefix_length_le ⟨b, hparts⟩ ⟨':' :: w, rfl⟩ (not_lt.1 hle)
  have hrest : b = x ++ ':' :: w := by simpa using hparts
  have hx : depthAfter 0 x = 0 := by
    rwa [depthAfter_append, depthAfter_append, ha] at hv
  exact noCut_iff.1 hb x w hrest hx

/-- A token is cut exactly after its last colon outside brackets. Nothing is lost, the variants are
empty or end with that colon, no such colon is left in the utility, and another utility without one
is cut off at the same place. -/
theorem splitVariants_last_colon {raw p u : List Char} (h : splitVariants raw = (p, u)) :
    p ++ u = raw
    ∧ (p = [] ∨ ∃ a, p = a ++ [':'] ∧ depthAfter 0 a = 0)
    ∧ (∀ a b, raw = a ++ ':' :: b → depthAfter 0 a = 0 → a.length < p.length)
    ∧ (∀ a b, u = a ++ ':' :: b → depthAfter 0 a ≠ 0)
    ∧ splitVariants u = ([], u)
    ∧ ∀ v, splitVariants v = ([], v) → splitVariants (p ++ v) = (p, v) := by
  have hexchange (v : List Char) (hv : splitVariants v = ([], v)) :
      splitVariants (p ++ v) = (p, v) := by
    have hsame := splitVariants_exchange raw (splitVariants_eq_nil_iff.1 hv)
    rwa [h] at hsame
  rcases noCut_or_exists 0 raw with hnone | ⟨a, b, rfl, ha, hb⟩
  · obtain ⟨rfl, rfl⟩ := Prod.ext_iff.1 ((splitVariants_of_noCut hnone).symm.trans h)
    refine ⟨rfl, .inl rfl, ?_, noCut_iff.1 hnone, splitVariants_of_noCut hnone, hexchange⟩
    exact fun v w hraw hv => absurd hv (noCut_iff.1 hnone v w hraw)
  · obtain ⟨rfl, rfl⟩ := Prod.ext_iff.1 ((splitVariants_cut ha hb).symm.trans h)
    refine ⟨by simp, .inr ⟨a, rfl, ha⟩, ?_, noCut_iff.1 hb, splitVariants_of_noCut hb, hexchange⟩
    exact fun v w hraw hv => lt_length_of_outside hb ha hraw hv

/-- A token with a bracket that closes nothing and one that is never closed. -/
theorem splitVariants_last_colon_unbalanced :
    splitVariants "]md:[&:hover]:bg-[url(a:b".toList
      = ("]md:[&:hover]:".toList, "bg-[url(a:b".toList)
    ∧ splitVariants "text-[a:b]".toList = ([], "text-[a:b]".toList)
    ∧ splitVariants ("]md:[&:hover]:".toList ++ "text-[a:b]".toList)
      = ("]md:[&:hover]:".toList, "text-[a:b]".toList) := by
  have hcut : splitVariants "]md:[&:hover]:bg-[url(a:b".toList
      = ("]md:[&:hover]:".toList, "bg-[url(a:b".toList) := by decide
  have hplain : splitVariants "text-[a:b]".toList = ([], "text-[a:b]".toList) := by decide
  obtain ⟨-, -, -, -, -, hexchange⟩ := splitVariants_last_colon hcut
  exact ⟨hcut, hplain, hexchange _ hplain⟩

end SiteTemplate.ClassToken
