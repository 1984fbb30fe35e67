import SiteTemplate.Proofs.MergedClasses
import SiteTemplate.Proofs.Traversal

/-!
# The last word on every property

A class word speaks, under its variants, about its property group or, outside the group table, about
itself. Of the well-formed words of the lists that are merged, those survive that no later word on
the same property follows. The merged list is read back as the words that survive, so merging it
again changes nothing, and neither does merging one of two lists first.
-/

namespace SiteTemplate.ClassToken

open Text

/-- The well-formed words of a class list, in order. -/
def wellFormedWords (s : String) : List (List Char) :=
  (words s.toList).filter fun w => !isMalformed w

/-- What a word overrides earlier words on: its variants with its property group or, if it has none,
its utility itself. -/
def conflictKey (w : List Char) : List String × (String ⊕ String) :=
  let (variants, utility) := splitVariants w
  (variantNames variants,
    match classify utility with
    | some group => .inl group
    | none => .inr (.ofList utility))

private theorem groupRules_head : ∀ r ∈ groupRules, r.group.toList.head?.any (· != '=') = true := by
  decide

private theorem group?_head {r : GroupRule} {cs : List Char} {group : String} (hr : r ∈ groupRules)
    (h : r.group? cs = some group) : group.toList.head?.any (· != '=') = true := by
  have hhead := groupRules_head r hr
  have hsided (side : String) : (r.group ++ "-" ++ side).toList.head?.any (· != '=') = true := by
    cases hgroup : r.group.toList with
    | nil => simp [hgroup] at hhead
    | cons c cs => simpa [hgroup] using hhead
  simp only [GroupRule.group?] at h
  split at h
  · cases h
  · next rest _ =>
    split at h
    · split at h
      · obtain rfl := Option.some.inj h
        exact hhead
      · cases h
    · obtain ⟨side, -, hside⟩ := List.exists_of_findSome?_eq_some h
      split at hside
      · split at hside
        · obtain rfl := Option.some.inj hside
          exact hsided side
        · cases hside
      · cases hside

theorem classify_ne_marked {utility : List Char} {group : String}
    (h : classify utility = some group) (marked : String) : group ≠ "=" ++ marked := by
  obtain ⟨r, hr, hgroup⟩ := List.exists_of_findSome?_eq_some h
  have hhead := group?_head hr hgroup
  rintro rfl
  simp at hhead

/-- The token as which a well-formed word is read. -/
def ofWord (w : List Char) : ClassToken :=
  ⟨.ofList w, variantNames (splitVariants w).1, .ofList (splitVariants w).2,
    classify (splitVariants w).2⟩

private theorem parse?_of_isWord {w : List Char} (hw : IsWord w) :
    parse? w = if isMalformed w then none else some (ofWord w) := by
  simp only [parse?, trim_eq_self hw.2]
  rfl

private theorem ofList_eq_map_ofWord (s : String) :
    ofList s.toList = (wellFormedWords s).map ofWord := by
  have hparse : ∀ w ∈ words s.toList,
      parse? w = Option.map ofWord (if !isMalformed w then some w else none) := by
    intro w hw
    rw [parse?_of_isWord (isWord_of_mem_words hw)]
    cases isMalformed w <;> rfl
  rw [ofList, List.filterMap_congr hparse, wellFormedWords, ← List.filterMap_eq_filter,
    List.map_filterMap]
  rfl

theorem flatMap_ofList (lists : List String) :
    (lists.flatMap fun s => ofList s.toList) = (lists.flatMap wellFormedWords).map ofWord := by
  rw [List.map_flatMap]
  exact List.flatMap_congr fun s _ => ofList_eq_map_ofWord s

private theorem conflicts_ofWord {v w : List Char} :
    conflicts (ofWord v) (ofWord w) = true ↔ conflictKey v = conflictKey w := by
  have hproperty : (ofWord v).property = (ofWord w).property
      ↔ (conflictKey v).2 = (conflictKey w).2 := by
    simp only [property, ofWord, conflictKey]
    cases hv : classify (splitVariants v).2 with
    | none =>
      cases hw : classify (splitVariants w).2 with
      | none => simp
      | some group => simpa using (classify_ne_marked hw _).symm
    | some group =>
      cases hw : classify (splitVariants w).2 with
      | none => simpa using classify_ne_marked hv _
      | some group' => simp
  rw [conflicts, Bool.and_eq_true, beq_iff_eq, beq_iff_eq, hproperty, Prod.ext_iff]
  rfl

theorem lastWords_map_ofWord (ws : List (List Char)) :
    lastWords (ws.map ofWord) = (lastBy conflictKey ws).map ofWord := by
  induction ws with
  | nil => rfl
  | cons w ws ih =>
    have hover : (ws.map ofWord).any (conflicts (ofWord w)) = true
        ↔ conflictKey w ∈ ws.map conflictKey := by
      rw [List.any_map, List.any_eq_true, List.mem_map]
      exact exists_congr fun v => and_congr_right fun _ => conflicts_ofWord.trans eq_comm
    rw [List.map_cons, lastWords_cons, lastBy_cons, ih]
    by_cases h : conflictKey w ∈ ws.map conflictKey
    · rw [if_pos h, if_pos (hover.2 h)]
    · rw [if_neg h, if_neg (mt hover.1 h), List.map_cons]

theorem words_merge_eq_lastBy (lists : List String) :
    words (merge lists).toList = lastBy conflictKey (lists.flatMap wellFormedWords) := by
  rw [words_merge, flatMap_ofList, lastWords_map_ofWord, List.map_map]
  exact List.map_id'' (fun _ => String.toList_ofList) _

theorem wellFormedWords_merge (lists : List String) :
    wellFormedWords (merge lists) = lastBy conflictKey (lists.flatMap wellFormedWords) := by
  rw [wellFormedWords, words_merge_eq_lastBy, List.filter_eq_self]
  intro w hw
  obtain ⟨s, -, hs⟩ := List.mem_flatMap.1 (lastBy_sublist.subset hw)
  exact (List.mem_filter.1 hs).2

theorem merge_eq_intercalate (lists : List String) :
    merge lists
      = " ".intercalate ((lastBy conflictKey (lists.flatMap wellFormedWords)).map .ofList) := by
  rw [merge, flatMap_ofList, lastWords_map_ofWord, List.map_map]
  rfl

theorem merge_congr {lists lists' : List String}
    (h : lastBy conflictKey (lists.flatMap wellFormedWords)
      = lastBy conflictKey (lists'.flatMap wellFormedWords)) : merge lists = merge lists' := by
  rw [merge_eq_intercalate, merge_eq_intercalate, h]

/-- Merged lists consist of the well-formed words of the lists, in order, that no later well-formed
word with the same key follows. So no two words of a merged list have one key, and it makes no
difference whether a list is merged before. -/
theorem merge_keeps_last_words (lists : List String) :
    merge lists
        = " ".intercalate ((lastBy conflictKey (lists.flatMap wellFormedWords)).map .ofList)
      ∧ ((words (merge lists).toList).map conflictKey).Nodup
      ∧ merge [merge lists] = merge lists
      ∧ ∀ a b, merge [a, b] = merge [merge [a], b] ∧ merge [a, b] = merge [a, merge [b]] := by
  refine ⟨merge_eq_intercalate lists, ?_, ?_, fun a b => ⟨?_, ?_⟩⟩
  · rw [words_merge_eq_lastBy]
    exact nodup_map_lastBy
  · apply merge_congr
    simp only [List.flatMap_cons, List.flatMap_nil, List.append_nil, wellFormedWords_merge]
    exact lastBy_lastBy
  · apply merge_congr
    simp only [List.flatMap_cons, List.flatMap_nil, List.append_nil, wellFormedWords_merge]
    exact lastBy_lastBy_append.symm
  · apply merge_congr
    simp only [List.flatMap_cons, List.flatMap_nil, List.append_nil, wellFormedWords_merge]
    exact lastBy_append_lastBy.symm

end SiteTemplate.ClassToken
