import SiteTemplate.Prompt
import SiteTemplate.Proofs.MergedClasses
import SiteTemplate.Proofs.ModelAnswers
import SiteTemplate.Proofs.Pieces
import SiteTemplate.Proofs.Scanning

/-!
# Values that answers leave behind

An answer in a fence of its own, with or without a language tag, is cleaned as the bare answer is.
An accepted answer becomes a value without blanks around it that would be accepted itself; for a
class list this holds although it is merged after it was looked at. Class lists and lines leave no
room for a placeholder form. The URL of an image does: it may hold braces, and so a slot path in
double braces, and nothing else that is a form.
-/

namespace SiteTemplate.Answer

open Text

variable {tag cs : List Char}

/-- A text in a fence: the mark and the tag on a line, the text, and the mark on a line. -/
def fenced (tag cs : List Char) : List Char :=
  fence.toList ++ (tag ++ ('\n' :: (cs ++ ('\n' :: fence.toList))))

private theorem trim_fenced (tag cs : List Char) : trim (fenced tag cs) = fenced tag cs := by
  apply trim_eq_self_of_ends
  · rfl
  · have hlast : (fenced tag cs).getLast? = some '\x60' := by
      simp only [fenced, List.getLast?_append, List.getLast?_cons]
      rfl
    rw [hlast]
    rfl

/-- Behind the opening line the text begins, and behind it nothing but blanks stands before the
closing mark. -/
theorem exists_trimStart_eq (hfirst : cs.head?.any isBlank = false) :
    ∃ gap, (∀ c ∈ gap, isBlank c = true)
      ∧ trimStart ('\n' :: (cs ++ ('\n' :: fence.toList))) = cs ++ (gap ++ fence.toList) := by
  cases cs with
  | nil => exact ⟨[], by simp, rfl⟩
  | cons c cs =>
    have hgap : ∀ c ∈ ['\n'], isBlank c = true := by decide
    exact ⟨['\n'], hgap, trimStart_append_of_stop hgap hfirst⟩

private theorem endsWith_append_fence (cs : List Char) :
    endsWith fence (cs ++ fence.toList) = true := by
  rw [endsWith, List.isSuffixOf_iff_suffix]
  exact List.suffix_append _ _

private theorem trimEnd_append {gap : List Char} (hgap : ∀ c ∈ gap, isBlank c = true)
    (hlast : cs.getLast?.any isBlank = false) : trimEnd (cs ++ gap) = cs := by
  have hreverse : cs.reverse.head?.any isBlank = false := by rwa [List.head?_reverse]
  rw [trimEnd, dropEndWhile, List.reverse_append,
    dropWhile_append_of_stop (fun c hc => hgap c (List.mem_reverse.1 hc)) hreverse,
    List.reverse_reverse]

private theorem dropFence_fenced (htag : ∀ c ∈ tag, isTagChar c = true) (htrim : trim cs = cs) :
    dropFence (fenced tag cs) = cs := by
  have hfirst : cs.head?.any isBlank = false := htrim ▸ head?_trim cs
  have hlast : cs.getLast?.any isBlank = false := htrim ▸ getLast?_trim cs
  obtain ⟨gap, hgap, hinner⟩ := exists_trimStart_eq hfirst
  have hopen : after? fence (fenced tag cs)
      = some (tag ++ ('\n' :: (cs ++ ('\n' :: fence.toList)))) := after?_append _ _
  have hline : (tag ++ ('\n' :: (cs ++ ('\n' :: fence.toList)))).dropWhile isTagChar
      = '\n' :: (cs ++ ('\n' :: fence.toList)) := dropWhile_append_of_stop htag rfl
  have htake : (cs ++ (gap ++ fence.toList)).take
      ((cs ++ (gap ++ fence.toList)).length - fence.length) = cs ++ gap := by
    rw [← List.append_assoc, List.length_append, ← String.length_toList, Nat.add_sub_cancel,
      List.take_left]
  rw [dropFence, hopen]
  dsimp only
  rw [hline, hinner, htake, ← List.append_assoc, endsWith_append_fence, if_pos rfl,
    trimEnd_append hgap hlast, htrim]

private theorem dropFence_eq_self (h : startsWith fence cs = false) : dropFence cs = cs := by
  cases hopen : after? fence cs with
  | none => rw [dropFence, hopen]
  | some rest =>
    rw [startsWith, after?_eq_some_iff.1 hopen, List.isPrefixOf_iff_prefix.2
      (List.prefix_append _ _)] at h
    cases h

/-- An answer without blanks around it that opens no fence itself is cleaned alike in a fence with
any tag and without one. -/
theorem clean_fenced (tag answer : String) (htag : ∀ c ∈ tag.toList, isTagChar c = true)
    (htrim : trimmed answer = answer) (hfence : startsWith fence answer.toList = false) :
    clean (fence ++ tag ++ "\n" ++ answer ++ "\n" ++ fence) = clean answer := by
  have htrim' : trim answer.toList = answer.toList := by
    conv_rhs => rw [← htrim, trimmed, String.toList_ofList]
  have hchars : (fence ++ tag ++ "\n" ++ answer ++ "\n" ++ fence).toList
      = fenced tag.toList answer.toList := by
    simp [fenced, String.toList_append]
  rw [clean, clean, hchars, trim_fenced, dropFence_fenced htag htrim', htrim',
    dropFence_eq_self hfence]

/-- An answer of two lines that ends in a mark itself, in a fence with a tag. -/
theorem clean_fenced_marked :
    (∀ c ∈ "css-in-js".toList, isTagChar c = true)
    ∧ trimmed "two\nlines\x60\x60\x60" = "two\nlines\x60\x60\x60"
    ∧ clean (fence ++ "css-in-js" ++ "\n" ++ "two\nlines\x60\x60\x60" ++ "\n" ++ fence)
      = clean "two\nlines\x60\x60\x60" :=
  ⟨by decide, by decide, clean_fenced "css-in-js" _ (by decide) (by decide) (by decide)⟩

end SiteTemplate.Answer

namespace SiteTemplate

open Text

namespace Answer

private theorem exists_dropFence_eq_trim (cs : List Char) :
    ∃ ds, dropFence (trim cs) = trim ds := by
  rw [dropFence]
  split
  · exact ⟨cs, rfl⟩
  · exact ⟨_, rfl⟩

private theorem exists_dropQuotes_eq_trim (cs : List Char) :
    ∃ ds, dropQuotes (trim cs) = trim ds := by
  cases hcs : trim cs with
  | nil => exact ⟨[], rfl⟩
  | cons q rest =>
    rw [dropQuotes]
    split
    · exact ⟨_, rfl⟩
    · exact ⟨cs, hcs.symm⟩

theorem trimmed_clean (answer : String) : trimmed (clean answer) = clean answer := by
  obtain ⟨ds, hfence⟩ := exists_dropFence_eq_trim answer.toList
  obtain ⟨es, hquotes⟩ := exists_dropQuotes_eq_trim ds
  rw [trimmed, clean, hfence, hquotes, String.toList_ofList, trim_trim]

private theorem isBlank_of_isUrlChar {c : Char} (h : isUrlChar c = true) :
    isBlank c = false ∧ c ≠ '<' := by
  simp only [isUrlChar, Bool.and_eq_true, Bool.not_eq_true'] at h
  refine ⟨h.1, ?_⟩
  rintro rfl
  exact absurd h.2 (by decide)

private theorem exists_of_isUrl {cs : List Char} (h : isUrl cs = true) :
    ∃ scheme ∈ ["http://", "https://"], ∃ run left, cs = scheme.toList ++ (run ++ left)
      ∧ (∀ c ∈ run, isUrlChar c = true) ∧ atTextEnd left = true := by
  rw [isUrl] at h
  split at h
  · next rest hread =>
    rw [Bool.and_eq_true] at h
    have hrest : rest = rest.takeWhile isUrlChar ++ rest.dropWhile isUrlChar :=
      List.takeWhile_append_dropWhile.symm
    have hscheme : ∃ scheme ∈ ["http://", "https://"], after? scheme cs = some rest := by
      rcases Option.or_eq_some_iff.1 hread with hread | ⟨-, hread⟩
      · exact ⟨_, by simp, hread⟩
      · exact ⟨_, by simp, hread⟩
    obtain ⟨scheme, hmem, hafter⟩ := hscheme
    refine ⟨scheme, hmem, rest.takeWhile isUrlChar, rest.dropWhile isUrlChar, ?_,
      fun c hc => List.mem_takeWhile_imp hc, h.2⟩
    rw [← hrest]
    exact after?_eq_some_iff.1 hafter
  · cases h

private theorem forall_mem_of_isUrl {cs : List Char} (h : isUrl cs = true) (htrim : trim cs = cs) :
    ∀ c ∈ cs, isBlank c = false ∧ c ≠ '<' := by
  obtain ⟨scheme, hscheme, run, left, rfl, hrun, hleft⟩ := exists_of_isUrl h
  have hcheck : (scheme.toList.all fun c => !isBlank c && c != '<') = true := by
    rw [List.mem_cons, List.mem_singleton] at hscheme
    rcases hscheme with rfl | rfl <;> decide
  have hchars : ∀ c ∈ scheme.toList, isBlank c = false ∧ c ≠ '<' := by simpa using hcheck
  have hlast := getLast?_trim (scheme.toList ++ (run ++ left))
  rw [htrim, ← List.append_assoc] at hlast
  rcases atTextEnd_iff.1 hleft with rfl | rfl
  · intro c hc
    rw [List.append_nil, List.mem_append] at hc
    rcases hc with hc | hc
    · exact hchars c hc
    · exact isBlank_of_isUrlChar (hrun c hc)
  · -- The line end would be a blank at the end.
    rw [List.getLast?_concat] at hlast
    exact absurd hlast (by decide)

end Answer

namespace Placeholder

private theorem Written.opening_of_isInfix {w : Written} {cs : List Char} (h : w.chars <:+: cs) :
    '<' ∈ cs ∨ "\x7b\x7b".toList <:+: cs := by
  cases w with
  | slot before path after =>
    have hopening : "\x7b\x7b".toList <+: (Written.slot before path after).chars :=
      List.prefix_append _ _
    exact .inr (hopening.isInfix.trans h)
  | tw | text | img | data => exact .inl (h.subset List.mem_cons_self)

private theorem Written.eq_slot {w : Written} (hw : w.Proper) {cs : List Char} (h : w.chars <:+: cs)
    (hcs : ∀ c ∈ cs, isBlank c = false ∧ c ≠ '<') :
    ∃ path, SlotPath path ∧ w = .slot [] path [] := by
  have hnone {blanks : List Char} (hblanks : ∀ c ∈ blanks, isBlank c = true)
      (hsub : ∀ c ∈ blanks, c ∈ w.chars) : blanks = [] := by
    rw [List.eq_nil_iff_forall_not_mem]
    intro c hc
    exact absurd (hblanks c hc) (by simp [hcs c (h.subset (hsub c hc))])
  cases w with
  | slot before path after =>
    obtain ⟨hbefore, hpath, hafter⟩ := hw
    obtain rfl := hnone hbefore fun c hc => by simp [Written.chars_slot, hc]
    obtain rfl := hnone hafter fun c hc => by simp [Written.chars_slot, hc]
    exact ⟨path, hpath, rfl⟩
  | tw | text | img | data => exact absurd rfl (hcs '<' (h.subset List.mem_cons_self)).2

theorem hasLeftover_eq_false {s : String} (hbracket : '<' ∉ s.toList)
    (hbraces : ¬ "\x7b\x7b".toList <:+: s.toList) : hasLeftover s = false := by
  by_contra hleft
  rw [Bool.not_eq_false, hasLeftover_iff] at hleft
  obtain ⟨w, -, hin⟩ := hleft
  exact (Written.opening_of_isInfix hin).elim hbracket hbraces

end Placeholder

open Placeholder

private theorem ClassToken.hasLeftover_merge (lists : List String) :
    hasLeftover (merge lists) = false := by
  have hforeign {c : Char} (hspace : c ≠ ' ') (hc : isTokenChar c = false) :
      c ∉ (merge lists).toList := by
    intro hmem
    rcases mem_merge hmem with rfl | htoken
    · exact hspace rfl
    · rw [hc] at htoken
      cases htoken
  -- Neither a bracket nor a brace is a character of a token.
  refine hasLeftover_eq_false (hforeign (by decide) (by decide)) fun hbraces => ?_
  exact hforeign (c := '\x7b') (by decide) (by decide) (hbraces.subset List.mem_cons_self)

namespace Answer

variable {s : String}

private theorem hasLeftover_of_isLine (h : isLine s.toList = true) : hasLeftover s = false := by
  simp only [isLine, Bool.and_eq_true, Bool.not_eq_true', List.contains_eq_mem,
    decide_eq_false_iff_not] at h
  obtain ⟨⟨⟨-, hbracket⟩, hbraces⟩, -⟩ := h
  refine hasLeftover_eq_false hbracket fun hin => ?_
  have hoccurs : occursIn ['\x7b', '\x7b'] s.toList = true := occursIn_eq_true_iff.2 hin
  rw [hoccurs] at hbraces
  cases hbraces

private theorem hasLeftover_iff_of_isUrl (h : isUrl s.toList = true)
    (htrim : trim s.toList = s.toList) :
    hasLeftover s = true
      ↔ ∃ path, SlotPath path ∧ (Written.slot [] path []).chars <:+: s.toList := by
  rw [hasLeftover_iff]
  constructor
  · rintro ⟨w, hw, hin⟩
    obtain ⟨path, hpath, rfl⟩ := Written.eq_slot hw hin (forall_mem_of_isUrl h htrim)
    exact ⟨path, hpath, hin⟩
  · rintro ⟨path, hpath, hin⟩
    have hnoBlanks : ∀ c ∈ ([] : List Char), isBlank c = true := fun c hc => nomatch hc
    exact ⟨.slot [] path [], ⟨hnoBlanks, hpath, hnoBlanks⟩, hin⟩

end Answer

namespace Resolver

variable {r : Resolver} {q : Request} {res : Resolution}

theorem exists_accepted_of_askStep (h : r.askStep q = .resolved res) :
    ∃ answer, Answer.accepts q.placeholder.kind (Answer.clean answer) = true
      ∧ res.value = valueOf q.placeholder.kind (Answer.clean answer) := by
  by_cases hanswers : ∃ v, r.AnswersWith q v
  · obtain ⟨v, hv⟩ := hanswers
    have hstep := askStep_of_answersWith hv
    obtain ⟨model, answer, -, -, -, haccepts, hvalue⟩ := hv
    rw [h] at hstep
    obtain rfl := Outcome.resolved.inj hstep
    exact ⟨answer, haccepts, hvalue⟩
  · exact absurd h (askStep_ne_resolved (not_exists.1 hanswers) res)

private theorem accepts_valueOf {k : Kind} {cleaned : String} (h : Answer.accepts k cleaned = true)
    :
    Answer.accepts k (valueOf k cleaned) = true := by
  cases k with
  | tw =>
    have hmerged :
        ClassToken.isClassList ClassToken.maxTokens (ClassToken.merge [cleaned]) = true :=
      ClassToken.isClassList_merge h
    exact hmerged
  | text | img | data | slot => exact h

private theorem trimmed_valueOf (k : Kind) (answer : String) :
    trimmed (valueOf k (Answer.clean answer)) = valueOf k (Answer.clean answer) := by
  cases k with
  | tw => exact ClassToken.trimmed_merge _
  | text | img | data | slot => exact Answer.trimmed_clean answer

/-- A resolver whose model gives one and the same answer to all prompts. -/
def answering (answer : String) : Resolver :=
  { settings := Processor.askingSettings, model := some fun _ => .text answer }

/-- A request for a kind of placeholder. -/
def requestFor (kind : Kind) : Request :=
  { placeholder := { kind }, userData := {}, theme := Theme.modern }

/-- The value of an answer is one that would be accepted itself, without blanks around it: a class
list still has a class and not too many, and all of them are known, although it has been merged. -/
theorem accepts_of_askStep (h : r.askStep q = .resolved res) :
    Answer.accepts q.placeholder.kind res.value = true
    ∧ trimmed res.value = res.value
    ∧ (q.placeholder.kind = .tw → words res.value.toList ≠ []
      ∧ (words res.value.toList).length ≤ ClassToken.maxTokens
      ∧ ∀ w ∈ words res.value.toList, ∃ t, ClassToken.parse? w = some t
        ∧ ClassToken.isKnown t.utility.toList = true) := by
  obtain ⟨answer, haccepts, hvalue⟩ := exists_accepted_of_askStep h
  have hvalueAccepts : Answer.accepts q.placeholder.kind res.value = true :=
    hvalue ▸ accepts_valueOf haccepts
  refine ⟨hvalueAccepts, hvalue ▸ trimmed_valueOf _ _, ?_⟩
  intro hkind
  rw [hkind] at hvalueAccepts
  exact ClassToken.isClassList_iff.1 hvalueAccepts

/-- Of two paddings the later one stays, and the list is still one that is accepted. -/
theorem accepts_of_askStep_merged :
    (answering "px-2 bg-red-500 px-4").askStep (requestFor .tw)
      = .resolved ⟨"bg-red-500 px-4", "ai"⟩
    ∧ Answer.accepts .tw "bg-red-500 px-4" = true
    ∧ trimmed "bg-red-500 px-4" = "bg-red-500 px-4" := by
  have hstep : (answering "px-2 bg-red-500 px-4").askStep (requestFor .tw)
      = .resolved ⟨"bg-red-500 px-4", "ai"⟩ := by rfl
  obtain ⟨haccepts, htrimmed, -⟩ := accepts_of_askStep hstep
  exact ⟨hstep, haccepts, htrimmed⟩

/-- A form in the value of an answer can only be a slot path in double braces, without blanks, in
the URL of an image. -/
theorem hasLeftover_of_askStep (h : r.askStep q = .resolved res) :
    hasLeftover res.value = true ↔ q.placeholder.kind = .img
      ∧ ∃ path, SlotPath path ∧ (Written.slot [] path []).chars <:+: res.value.toList := by
  obtain ⟨answer, haccepts, hvalue⟩ := exists_accepted_of_askStep h
  rw [hvalue]
  generalize hkind : q.placeholder.kind = k at haccepts ⊢
  have hnone {s : String} (hs : hasLeftover s = false) (hk : k ≠ .img) :
      hasLeftover s = true ↔ k = .img
        ∧ ∃ path, SlotPath path ∧ (Written.slot [] path []).chars <:+: s.toList := by
    simp [hs, hk]
  cases k with
  | tw => exact hnone (ClassToken.hasLeftover_merge _) (by decide)
  | text | data | slot => exact hnone (Answer.hasLeftover_of_isLine haccepts) (by decide)
  | img =>
    have htrim : trim (Answer.clean answer).toList = (Answer.clean answer).toList := by
      have htrimmed := congrArg String.toList (Answer.trimmed_clean answer)
      rwa [trimmed, String.toList_ofList] at htrimmed
    rw [eq_self, true_and]
    exact Answer.hasLeftover_iff_of_isUrl haccepts htrim

theorem hasLeftover_of_askStep_line :
    (answering "\"Fresh every morning\"").askStep (requestFor .text)
      = .resolved ⟨"Fresh every morning", "ai"⟩
    ∧ hasLeftover "Fresh every morning" = false := by
  have hstep : (answering "\"Fresh every morning\"").askStep (requestFor .text)
      = .resolved ⟨"Fresh every morning", "ai"⟩ := by rfl
  have hnone : ¬ hasLeftover "Fresh every morning" = true := by
    rw [hasLeftover_of_askStep hstep]
    rintro ⟨hkind, -⟩
    cases hkind
  exact ⟨hstep, by simpa using hnone⟩

/-- A slot in the URL of an image is taken for a part of the URL and gets into the page. -/
theorem askStep_url_with_slot :
    ∃ res, (answering "https://cdn.example.com/\x7b\x7bhero\x7d\x7d.png").askStep (requestFor .img)
        = .resolved res
      ∧ hasLeftover res.value = true := by
  refine ⟨⟨"https://cdn.example.com/\x7b\x7bhero\x7d\x7d.png", "ai"⟩, ?_, ?_⟩
  · rfl
  · decide +kernel

end Resolver

end SiteTemplate
