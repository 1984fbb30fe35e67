import SiteTemplate.Proofs.MergedClasses
import SiteTemplate.Proofs.Scanning
import SiteTemplate.Proofs.TokenParts

/-!
# Tokens written from their parts

A token is written as its variants, each with a colon behind it, and its utility. That is the text
from which the token was read, apart from a colon at its start, which stands for no variant and is
not refused. So tokens with the same parts have the same text unless just one of them begins with a
colon.
-/

namespace SiteTemplate.ClassToken

open Text

variable {cs ds p : List Char} {s t : ClassToken}

/-- Names, none of them empty and each with a colon behind it. -/
inductive IsRun : List Char → Prop where
  | nil : IsRun []
  | cons {name rest : List Char} (hne : name ≠ []) (hname : ':' ∉ name) (hrest : IsRun rest) :
    IsRun (name ++ ':' :: rest)

/-- Variants as they are written, each with its colon. -/
def writtenVariants (names : List String) : List Char := names.flatMap fun v => v.toList ++ [':']

private theorem variantNames_append {name rest : List Char} (hne : name ≠ []) (hname : ':' ∉ name) :
    variantNames (name ++ ':' :: rest) = .ofList name :: variantNames rest := by
  have hcolon : ∀ c ∈ name, (c == ':') = false := by
    intro c hc
    simpa using fun he : c = ':' => hname (he ▸ hc)
  rw [variantNames, List.splitOnP_append_cons_of_forall_mem hcolon _ (by decide),
    List.filter_cons_of_pos (by simpa using hne), List.map_cons, variantNames]

private theorem variantNames_colon_cons (p : List Char) :
    variantNames (':' :: p) = variantNames p := by
  rw [variantNames, List.splitOnP_cons_eq_if_modifyHead, if_pos (by decide)]
  rfl

theorem IsRun.writtenVariants (h : IsRun p) : writtenVariants (variantNames p) = p := by
  induction h with
  | nil => rfl
  | cons hne hname _ ih =>
    rw [variantNames_append hne hname, ClassToken.writtenVariants, List.flatMap_cons,
      String.toList_ofList, ← ClassToken.writtenVariants, ih, List.append_assoc,
      List.singleton_append]

/-- Characters that end with a colon, if there are any, and have no two colons in a row are a run
of variants unless they begin with a colon. -/
theorem isRun_of_getLast? (hlast : p = [] ∨ p.getLast? = some ':') (hdouble : ¬ [':', ':'] <:+: p)
    (hhead : p.head? ≠ some ':') : IsRun p := by
  induction hlength : p.length using Nat.strong_induction_on generalizing p with
  | _ n ih =>
    rcases hlast with rfl | hlast
    · exact .nil
    · obtain ⟨name, rest, rfl, hname⟩ := List.eq_append_cons_of_mem (List.mem_of_getLast? hlast)
      have hne : name ≠ [] := by
        rintro rfl
        exact hhead rfl
      have hrest : rest = [] ∨ rest.getLast? = some ':' := by
        by_cases hnil : rest = []
        · exact .inl hnil
        · right
          rwa [List.getLast?_append_of_ne_nil _ (by simp), List.getLast?_cons_of_ne_nil hnil]
            at hlast
      have hshorter : rest.length < n := by
        rw [← hlength, List.length_append, List.length_cons]
        omega
      have hsuffix : ':' :: rest <:+: name ++ ':' :: rest := (List.suffix_append name _).isInfix
      refine .cons hne hname (ih _ hshorter hrest ?_ ?_ rfl)
      · exact fun h => hdouble ((h.trans (List.suffix_cons ':' rest).isInfix).trans hsuffix)
      · intro hcolon
        obtain ⟨more, rfl⟩ := List.head?_eq_some_iff.1 hcolon
        exact hdouble ((List.prefix_append [':', ':'] more).isInfix.trans hsuffix)

private theorem splitVariants_colon_cons (cs : List Char) :
    splitVariants (':' :: cs) = (':' :: (splitVariants cs).1, (splitVariants cs).2) := by
  rcases noCut_or_exists 0 cs with hnone | ⟨a, b, rfl, ha, hb⟩
  · rw [splitVariants_of_noCut hnone]
    exact splitVariants_cut (a := []) rfl hnone
  · rw [splitVariants_cut ha hb]
    exact splitVariants_cut (a := ':' :: a) ha hb

private theorem getLast?_variants (cs : List Char) :
    (splitVariants cs).1 = [] ∨ (splitVariants cs).1.getLast? = some ':' := by
  rcases noCut_or_exists 0 cs with hnone | ⟨a, b, rfl, ha, hb⟩
  · left
    rw [splitVariants_of_noCut hnone]
  · right
    rw [splitVariants_cut ha hb, List.getLast?_concat]

private theorem isPrefix_variants (cs : List Char) : (splitVariants cs).1 <+: cs :=
  ⟨_, splitVariants_append cs⟩

theorem isRun_variants (hdouble : ¬ [':', ':'] <:+: cs) (hhead : cs.head? ≠ some ':') :
    IsRun (splitVariants cs).1 := by
  refine isRun_of_getLast? (getLast?_variants cs) ?_ ?_
  · exact fun h => hdouble (h.trans (isPrefix_variants cs).isInfix)
  · intro hcolon
    obtain ⟨more, hmore⟩ := List.head?_eq_some_iff.1 hcolon
    have hsplit := splitVariants_append cs
    rw [hmore] at hsplit
    exact hhead (by rw [← hsplit]; rfl)

private theorem writtenVariants_append (hdouble : ¬ [':', ':'] <:+: cs) :
    (if cs.head? = some ':' then [':'] else [])
      ++ (writtenVariants (variantNames (splitVariants cs).1) ++ (splitVariants cs).2) = cs := by
  split_ifs with hhead
  · -- The colon at the start is cut off with an empty name behind it.
    obtain ⟨rest, rfl⟩ := List.head?_eq_some_iff.1 hhead
    have hrest : rest.head? ≠ some ':' := by
      intro hcolon
      obtain ⟨more, rfl⟩ := List.head?_eq_some_iff.1 hcolon
      exact hdouble (List.prefix_append [':', ':'] more).isInfix
    have hrun : IsRun (splitVariants rest).1 :=
      isRun_variants (fun h => hdouble (h.trans (List.suffix_cons ':' rest).isInfix)) hrest
    rw [splitVariants_colon_cons, variantNames_colon_cons, hrun.writtenVariants,
      splitVariants_append, List.singleton_append]
  · rw [(isRun_variants hdouble hhead).writtenVariants, splitVariants_append, List.nil_append]

/-- A token written from its parts. -/
def written (t : ClassToken) : String := .ofList (writtenVariants t.variants ++ t.utility.toList)

/-- The text of a token begins with a colon. -/
def BeginsWithColon (t : ClassToken) : Prop := t.raw.toList.head? = some ':'

instance (t : ClassToken) : Decidable t.BeginsWithColon :=
  inferInstanceAs (Decidable (t.raw.toList.head? = some ':'))

private theorem not_infix_of_wellFormed (hwell : isMalformed cs = false) :
    ¬ [':', ':'] <:+: cs := by
  intro hdouble
  have hoccurs : occursIn "::".toList cs = true := occursIn_eq_true_iff.2 hdouble
  have hflaw : hasFlaw cs = true := by simp only [hasFlaw, hoccurs, Bool.or_true, Bool.true_or]
  simp [isMalformed, hflaw] at hwell

theorem of_parse? (h : parse? cs = some t) : isMalformed (trim cs) = false
    ∧ t = ⟨.ofList (trim cs), variantNames (splitVariants (trim cs)).1,
      .ofList (splitVariants (trim cs)).2, classify (splitVariants (trim cs)).2⟩ := by
  simp only [parse?] at h
  split at h
  · cases h
  · next hwell => exact ⟨by simpa using hwell, (Option.some.inj h).symm⟩

theorem raw_eq_written (h : parse? cs = some t) :
    t.raw = (if t.BeginsWithColon then ":" else "") ++ t.written := by
  obtain ⟨hwell, rfl⟩ := of_parse? h
  have hparts := writtenVariants_append (not_infix_of_wellFormed hwell)
  apply String.toList_injective
  simp only [BeginsWithColon, written, String.toList_append, String.toList_ofList]
  rw [apply_ite String.toList]
  exact hparts.symm

/-- A token that is read from a text keeps it, freed from the blanks around it, and has it written
from its parts unless it begins with a colon; then the colon is missing. So tokens with the same
parts have the same text exactly if both or none of them begin with a colon. -/
theorem parse?_keeps_text (h : parse? cs = some t) :
    t.raw = .ofList (trim cs)
    ∧ t.raw = (if t.BeginsWithColon then ":" else "") ++ t.written
    ∧ ∀ ds s, parse? ds = some s → s.variants = t.variants → s.utility = t.utility →
      (s.raw = t.raw ↔ (s.BeginsWithColon ↔ t.BeginsWithColon)) := by
  refine ⟨?_, raw_eq_written h, fun ds s hs hvariants hutility => ?_⟩
  · rw [(of_parse? h).2]
  · have hwritten : s.written = t.written := by rw [written, written, hvariants, hutility]
    constructor
    · intro hraw
      rw [BeginsWithColon, BeginsWithColon, hraw]
    · intro hcolon
      rw [raw_eq_written hs, raw_eq_written h, hwritten, if_congr hcolon rfl rfl]

theorem parse?_keeps_text_brackets :
    ∃ t, parse? " md:[x:y]:bg-blue-600".toList = some t ∧ t.variants = ["md", "[x", "y]"]
      ∧ t.raw = "md:[x:y]:bg-blue-600" ∧ t.raw = t.written := by
  have hparse : parse? " md:[x:y]:bg-blue-600".toList
      = some ⟨"md:[x:y]:bg-blue-600", ["md", "[x", "y]"], "bg-blue-600", some "bg-color"⟩ := by
    decide
  obtain ⟨hraw, hwritten, -⟩ := parse?_keeps_text hparse
  exact ⟨_, hparse, rfl, hraw, hwritten⟩

/-- Two texts that are read as tokens with the same parts: the second is not the text that is
written from them, and it overrides the first. -/
theorem parse?_colon_flex :
    parse? "flex".toList = some ⟨"flex", [], "flex", some "display"⟩
    ∧ parse? ":flex".toList = some ⟨":flex", [], "flex", some "display"⟩
    ∧ written ⟨":flex", [], "flex", some "display"⟩ = "flex"
    ∧ merge ["flex", ":flex"] = ":flex" := by
  decide

end SiteTemplate.ClassToken
