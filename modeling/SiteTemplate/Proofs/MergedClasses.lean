import SiteTemplate.Proofs.TokenParts

/-!
# Merged class lists

A merged list is written from the tokens that no later one overrides, a blank between every two of
them, and it is read back as exactly these tokens. The last token of a list is never overridden. So
merging a list that is accepted leaves a list that is accepted.
-/

namespace SiteTemplate

namespace Text

/-- Characters, at least one of them, none of which is a blank. -/
def IsWord (cs : List Char) : Prop := cs ≠ [] ∧ ∀ c ∈ cs, isBlank c = false

private theorem not_isBlank_of_mem_splitOnP {cs w : List Char} (h : w ∈ cs.splitOnP isBlank) :
    ∀ c ∈ w, isBlank c = false := by
  induction cs generalizing w with
  | nil =>
    obtain rfl : w = [] := by simpa using h
    simp
  | cons c cs ih =>
    rw [List.splitOnP_cons_eq_if_modifyHead] at h
    cases hc : isBlank c with
    | true =>
      rw [if_pos hc, List.mem_cons] at h
      rcases h with rfl | h
      · simp
      · exact ih h
    | false =>
      rw [if_neg (by simp [hc])] at h
      cases hsplit : cs.splitOnP isBlank with
      | nil => exact absurd hsplit (List.splitOnP_ne_nil _ _)
      | cons first rest =>
        rw [hsplit] at h ih
        rw [List.modifyHead_cons, List.mem_cons] at h
        rcases h with rfl | h
        · exact List.forall_mem_cons.2 ⟨hc, ih List.mem_cons_self⟩
        · exact ih (List.mem_cons_of_mem _ h)

theorem isWord_of_mem_words {cs w : List Char} (h : w ∈ words cs) : IsWord w := by
  obtain ⟨hsplit, hne⟩ := List.mem_filter.1 h
  exact ⟨by simpa using hne, not_isBlank_of_mem_splitOnP hsplit⟩

theorem IsWord.head?_append {w : List Char} (h : IsWord w) (cs : List Char) :
    (w ++ cs).head?.any isBlank = false := by
  cases w with
  | nil => exact absurd rfl h.1
  | cons c w => simpa using h.2 c List.mem_cons_self

theorem IsWord.getLast? {w : List Char} (h : IsWord w) : w.getLast?.any isBlank = false := by
  cases hlast : w.getLast? with
  | none => rfl
  | some c => simpa using h.2 c (List.mem_of_getLast? hlast)

theorem toList_intercalate_cons_cons (w x : String) (ws : List String) :
    (" ".intercalate (w :: x :: ws)).toList
      = w.toList ++ ' ' :: (" ".intercalate (x :: ws)).toList := by
  rw [String.intercalate_cons_cons, String.toList_append, String.toList_append, List.append_assoc]
  rfl

section Intercalate

variable {ws : List String}

theorem words_intercalate (h : ∀ w ∈ ws, IsWord w.toList) :
    words (" ".intercalate ws).toList = ws.map String.toList := by
  induction ws with
  | nil => rfl
  | cons w ws ih =>
    rw [List.forall_mem_cons] at h
    obtain ⟨⟨hne, hw⟩, hws⟩ := h
    have hword : words w.toList = [w.toList] := words_eq_singleton hne hw
    -- Only between two words is there a blank at which to part them.
    cases ws with
    | nil => simpa using hword
    | cons x ws =>
      rw [toList_intercalate_cons_cons, words_append_blank isBlank_space, hword, ih hws]
      rfl

private theorem getLast?_intercalate (h : ∀ w ∈ ws, IsWord w.toList) :
    (" ".intercalate ws).toList.getLast?.any isBlank = false := by
  induction ws with
  | nil => rfl
  | cons w ws ih =>
    rw [List.forall_mem_cons] at h
    cases ws with
    | nil => simpa using h.1.getLast?
    | cons x ws =>
      have hlast := ih h.2
      have hne : (" ".intercalate (x :: ws)).toList ≠ [] := by
        intro hnil
        have hwords := words_intercalate h.2
        rw [hnil] at hwords
        simp [words] at hwords
      rw [toList_intercalate_cons_cons, List.getLast?_append_of_ne_nil _ (by simp),
        List.getLast?_cons_of_ne_nil hne]
      exact hlast

private theorem trim_intercalate (h : ∀ w ∈ ws, IsWord w.toList) :
    trim (" ".intercalate ws).toList = (" ".intercalate ws).toList := by
  refine trim_eq_self_of_ends ?_ (getLast?_intercalate h)
  cases ws with
  | nil => rfl
  | cons w ws =>
    have hw := h w List.mem_cons_self
    cases ws with
    | nil => simpa using hw.head?_append []
    | cons x ws =>
      rw [toList_intercalate_cons_cons]
      exact hw.head?_append _

private theorem mem_intercalate {c : Char} (h : c ∈ (" ".intercalate ws).toList) :
    c = ' ' ∨ ∃ w ∈ ws, c ∈ w.toList := by
  induction ws with
  | nil => simp at h
  | cons w ws ih =>
    cases ws with
    | nil => exact .inr ⟨w, List.mem_cons_self, by simpa using h⟩
    | cons x ws =>
      rw [toList_intercalate_cons_cons, List.mem_append, List.mem_cons] at h
      rcases h with h | rfl | h
      · exact .inr ⟨w, List.mem_cons_self, h⟩
      · exact .inl rfl
      · refine (ih h).imp_right ?_
        rintro ⟨y, hy, hc⟩
        exact ⟨y, List.mem_cons_of_mem w hy, hc⟩

end Intercalate

end Text

namespace ClassToken

open Text

variable {cs w : List Char} {t : ClassToken} {ts : List ClassToken}

private theorem raw_of_parse? (hw : IsWord w) (h : parse? w = some t) : t.raw.toList = w := by
  simp only [parse?, trim_eq_self hw.2] at h
  split at h
  · cases h
  · obtain rfl := Option.some.inj h
    exact String.toList_ofList

theorem of_mem_ofList (h : t ∈ ofList cs) :
    IsWord t.raw.toList ∧ t.raw.toList ∈ words cs ∧ parse? t.raw.toList = some t := by
  obtain ⟨w, hmem, hparse⟩ := List.mem_filterMap.1 h
  have hw := isWord_of_mem_words hmem
  rw [raw_of_parse? hw hparse]
  exact ⟨hw, hmem, hparse⟩

theorem lastWords_sublist (ts : List ClassToken) : (lastWords ts).Sublist ts := by
  induction ts with
  | nil => exact .slnil
  | cons t ts ih =>
    rw [lastWords_cons]
    split
    · exact ih.cons t
    · exact ih.cons_cons t

private theorem lastWords_ne_nil (h : ts ≠ []) : lastWords ts ≠ [] := by
  induction ts with
  | nil => exact absurd rfl h
  | cons t ts ih =>
    rw [lastWords_cons]
    split
    · next hover =>
      apply ih
      rintro rfl
      cases hover
    · exact List.cons_ne_nil _ _

theorem of_mem_lastWords {lists : List String}
    (h : t ∈ lastWords (lists.flatMap fun s => ofList s.toList)) :
    IsWord t.raw.toList ∧ parse? t.raw.toList = some t := by
  obtain ⟨s, -, hs⟩ := List.mem_flatMap.1 ((lastWords_sublist _).subset h)
  obtain ⟨hw, -, hparse⟩ := of_mem_ofList hs
  exact ⟨hw, hparse⟩

theorem isWord_of_mem_map_raw {lists : List String} :
    ∀ raw ∈ (lastWords (lists.flatMap fun s => ofList s.toList)).map (·.raw),
      IsWord raw.toList := by
  rw [List.forall_mem_map]
  exact fun t ht => (of_mem_lastWords ht).1

theorem words_merge (lists : List String) :
    words (merge lists).toList
      = (lastWords (lists.flatMap fun s => ofList s.toList)).map fun t => t.raw.toList := by
  rw [merge, words_intercalate isWord_of_mem_map_raw, List.map_map]
  rfl

theorem trimmed_merge (lists : List String) : trimmed (merge lists) = merge lists := by
  rw [trimmed, merge, trim_intercalate isWord_of_mem_map_raw, String.ofList_toList]

private theorem dropFinalNewline_eq_self (h : '\n' ∉ w) : dropFinalNewline w = w := by
  rw [dropFinalNewline]
  split
  · next rest hreverse => exact absurd (List.mem_reverse.1 (hreverse ▸ List.mem_cons_self)) h
  · rfl

private theorem isTokenChar_of_parse? (hw : IsWord w) (h : parse? w = some t) :
    ∀ c ∈ w, isTokenChar c = true := by
  have hnewline : '\n' ∉ w := fun hmem => absurd (hw.2 _ hmem) (by decide)
  have hwell : isMalformed w = false := by
    by_contra hmalformed
    rw [Bool.not_eq_false] at hmalformed
    simp [parse?, trim_eq_self hw.2, hmalformed] at h
  rw [isMalformed, dropFinalNewline_eq_self hnewline] at hwell
  split at hwell
  · cases hwell
  · next hchars => simpa [hw.1] using hchars

/-- Apart from the blanks between them, a merged list is made of the characters of tokens. -/
theorem mem_merge {lists : List String} {c : Char} (h : c ∈ (merge lists).toList) :
    c = ' ' ∨ isTokenChar c = true := by
  refine (mem_intercalate h).imp_right ?_
  rintro ⟨raw, hraw, hc⟩
  obtain ⟨t, ht, rfl⟩ := List.mem_map.1 hraw
  obtain ⟨hw, hparse⟩ := of_mem_lastWords ht
  exact isTokenChar_of_parse? hw hparse c hc

theorem isClassList_iff {max : Nat} {s : String} :
    isClassList max s = true ↔ words s.toList ≠ [] ∧ (words s.toList).length ≤ max
      ∧ ∀ w ∈ words s.toList, ∃ t, parse? w = some t ∧ isKnown t.utility.toList = true := by
  simp only [isClassList, Bool.and_eq_true, Bool.not_eq_true', List.isEmpty_eq_false_iff,
    decide_eq_true_eq, List.all_eq_true, and_assoc]
  refine and_congr_right fun _ => and_congr_right fun _ => forall₂_congr fun w _ => ?_
  cases parse? w with
  | none => simp
  | some t => simp

theorem isClassList_merge {max : Nat} {s : String} (h : isClassList max s = true) :
    isClassList max (merge [s]) = true := by
  obtain ⟨hne, hlength, hwords⟩ := isClassList_iff.1 h
  have hlists : ([s].flatMap fun s => ofList s.toList) = ofList s.toList := by simp
  have hsub : (lastWords (ofList s.toList)).Sublist (ofList s.toList) := lastWords_sublist _
  rw [isClassList_iff, words_merge, hlists]
  refine ⟨?_, ?_, ?_⟩
  · -- The first word is a token, so there are tokens, and the last of them survives.
    obtain ⟨w, hw⟩ := List.exists_mem_of_ne_nil _ hne
    obtain ⟨t, hparse, -⟩ := hwords w hw
    have ht : t ∈ ofList s.toList := List.mem_filterMap.2 ⟨w, hw, hparse⟩
    simpa using lastWords_ne_nil (List.ne_nil_of_mem ht)
  · have hsurvive := hsub.length_le
    have hread : (ofList s.toList).length ≤ (words s.toList).length :=
      List.length_filterMap_le _ _
    rw [List.length_map]
    omega
  · rw [List.forall_mem_map]
    intro t ht
    obtain ⟨-, hmem, hparse⟩ := of_mem_ofList (hsub.subset ht)
    obtain ⟨t', hparse', hknown⟩ := hwords _ hmem
    exact ⟨t', hparse', hknown⟩

end ClassToken

end SiteTemplate
