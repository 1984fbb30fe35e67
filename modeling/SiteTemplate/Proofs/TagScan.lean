import Mathlib.Data.List.Basic
import SiteTemplate.Placeholder.Markup

/-!
# Tags in a text that grows

A tag ends at its own bracket, so no text that follows can change it. What has been scanned
therefore counts for the rest of the text only from its last `<` on, and only if no tag has ended
since: scanning a text in two parts finds the tags of the whole text.
-/

namespace SiteTemplate.Markup

namespace Tag

/-- A tag is read exactly where a body without brackets stands between two brackets. -/
theorem read?_eq_some_iff {cs left : List Char} {t : Tag} :
    read? cs = some (t, left) ↔
      ∃ body, (∀ c ∈ body, isBracket c = false) ∧ ofBody? body = some t ∧
        cs = '<' :: (body ++ '>' :: left) := by
  constructor
  · intro h
    unfold read? at h
    split at h
    · next cs =>
      split at h
      · next rest hrest =>
        simp only [Option.map_eq_some_iff, Prod.mk.injEq] at h
        obtain ⟨t, hbody, rfl, rfl⟩ := h
        refine ⟨cs.takeWhile (!isBracket ·), fun c hc => ?_, hbody, ?_⟩
        · simpa using List.all_eq_true.1 List.all_takeWhile c hc
        · rw [← hrest, List.takeWhile_append_dropWhile]
      · cases h
    · cases h
  · rintro ⟨body, hbody, ht, rfl⟩
    have hall : ∀ c ∈ body, (!isBracket c) = true := by simpa using hbody
    have hstop : (!isBracket '>') = false := rfl
    simp [read?, List.dropWhile_append_of_pos hall, List.takeWhile_append_of_pos hall, hstop, ht]

private theorem read?_append {cs left : List Char} {t : Tag} (h : read? cs = some (t, left))
    (more : List Char) : read? (cs ++ more) = some (t, left ++ more) := by
  obtain ⟨body, hbody, ht, rfl⟩ := read?_eq_some_iff.1 h
  exact read?_eq_some_iff.2 ⟨body, hbody, ht, by simp⟩

/-- What cannot grow into a tag: text that does not start with `<`, or in which another `<`
follows. -/
theorem read?_append_eq_none {c : Char} {rest : List Char} (h : read? (c :: rest) = none)
    (hblocked : c ≠ '<' ∨ '<' ∈ rest) (more : List Char) :
    read? (c :: (rest ++ more)) = none := by
  by_contra hsome
  obtain ⟨⟨t, left⟩, hread⟩ := Option.ne_none_iff_exists'.1 hsome
  obtain ⟨body, hbody, ht, heq⟩ := read?_eq_some_iff.1 hread
  obtain ⟨rfl, htail⟩ := List.cons.inj heq
  have hmem : '<' ∈ rest := hblocked.resolve_left (· rfl)
  have hnot : '<' ∉ body := fun hm => absurd (hbody _ hm) (by decide)
  rcases List.append_eq_append_iff.1 htail with ⟨within, rfl, -⟩ | ⟨within, rfl, hwithin⟩
  · exact hnot (List.mem_append_left _ hmem)
  · cases within with
    | nil => exact hnot (by simpa using hmem)
    | cons d within =>
      obtain ⟨rfl, -⟩ := List.cons.inj hwithin
      rw [read?_eq_some_iff.2 ⟨body, hbody, ht, rfl⟩] at h
      cases h

theorem scan_eq_of_read? {cs left : List Char} {t : Tag} (h : read? cs = some (t, left)) :
    scan cs = (t :: (scan left).1, (scan left).2) := by
  cases cs with
  | nil => cases h
  | cons c rest =>
    rw [scan]
    split
    · next t' left' h' =>
      rw [h] at h'
      obtain ⟨rfl, rfl⟩ := Prod.mk.inj (Option.some.inj h')
      rfl
    · next h' =>
      rw [h] at h'
      cases h'

theorem scan_cons_of_read? {c : Char} {rest : List Char} (h : read? (c :: rest) = none) :
    scan (c :: rest) = if (scan rest).1 = [] then ([], c :: rest) else scan rest := by
  rw [scan]
  split
  · next h' =>
    rw [h] at h'
    cases h'
  · split
    · next hscan => simp [hscan]
    · next hscan =>
      rw [if_neg]
      intro hnil
      exact hscan (scan rest).2 (Prod.ext hnil rfl)

@[simp] theorem scan_nil : scan [] = ([], []) := by rw [scan]

/-- Induction over a text from tag to tag and, between them, from character to character. -/
@[elab_as_elim]
theorem scanInduction {motive : List Char → Prop} (nil : motive [])
    (tag : ∀ (cs left : List Char) (t : Tag), read? cs = some (t, left) → motive left → motive cs)
    (char : ∀ (c : Char) (rest : List Char), read? (c :: rest) = none → motive rest →
      motive (c :: rest)) (cs : List Char) : motive cs := by
  induction hn : cs.length using Nat.strongRecOn generalizing cs with
  | _ n ih =>
    subst hn
    cases cs with
    | nil => exact nil
    | cons c rest =>
      cases hread : read? (c :: rest) with
      | some found =>
        obtain ⟨t, left⟩ := found
        exact tag _ left t hread (ih _ (length_lt_of_read? hread) left rfl)
      | none => exact char c rest hread (ih _ (by simp) rest rfl)

theorem scan_of_fst_eq_nil {cs : List Char} (h : (scan cs).1 = []) : scan cs = ([], cs) := by
  cases cs with
  | nil => exact scan_nil
  | cons c rest =>
    cases hread : read? (c :: rest) with
    | some found =>
      obtain ⟨t, left⟩ := found
      rw [scan_eq_of_read? hread] at h
      exact absurd h (List.cons_ne_nil _ _)
    | none =>
      rw [scan_cons_of_read? hread] at h ⊢
      split at h
      · next hnil => rw [if_pos hnil]
      · next hne => exact absurd h hne

private theorem mem_of_fst_scan_ne_nil {cs : List Char} (h : (scan cs).1 ≠ []) : '<' ∈ cs := by
  induction cs using scanInduction with
  | nil => simp at h
  | tag cs left t hread =>
    obtain ⟨body, -, -, rfl⟩ := read?_eq_some_iff.1 hread
    exact List.mem_cons_self
  | char c rest hread ih =>
    rw [scan_cons_of_read? hread] at h
    split at h
    · exact absurd rfl h
    · next hne => exact List.mem_cons_of_mem _ (ih hne)

end Tag

theorem fromLast_eq_nil_iff {c : Char} {cs : List Char} : fromLast c cs = [] ↔ c ∉ cs := by
  induction cs with
  | nil => simp [fromLast]
  | cons x xs ih =>
    rw [fromLast]
    split
    · next hnil =>
      have hxs := ih.1 hnil
      by_cases hx : x = c
      · simp [hx]
      · simp [hx, hxs, Ne.symm hx]
    · next hne =>
      have hxs : c ∈ xs := by
        by_contra hnot
        exact hne (ih.2 hnot)
      simp [hxs, ih]

private theorem fromLast_cons_of_mem {c x : Char} {xs : List Char} (h : c ∈ xs) :
    fromLast c (x :: xs) = fromLast c xs := by
  rw [fromLast]
  split
  · next hnil => exact absurd h (fromLast_eq_nil_iff.1 hnil)
  · rfl

private theorem fromLast_cons_of_ne {c x : Char} {xs : List Char} (h : x ≠ c) :
    fromLast c (x :: xs) = fromLast c xs := by
  rw [fromLast]
  split
  · next hnil => rw [if_neg h, hnil]
  · rfl

private theorem fromLast_cons_self {c : Char} {xs : List Char} (h : c ∉ xs) :
    fromLast c (c :: xs) = c :: xs := by
  rw [fromLast, fromLast_eq_nil_iff.2 h]
  exact if_pos rfl

/-- The tags of a text. -/
def tagsOf (cs : List Char) : List Tag := (Tag.scan cs).1

/-- The part of a text that counts for the scan of what follows. -/
def pendingOf (cs : List Char) : List Char := fromLast '<' (Tag.scan cs).2

@[simp] theorem tagsOf_nil : tagsOf [] = [] := by simp [tagsOf]

@[simp] theorem pendingOf_nil : pendingOf [] = [] := by simp [pendingOf, fromLast]

theorem tagsOf_of_read? {cs left : List Char} {t : Tag} (h : Tag.read? cs = some (t, left)) :
    tagsOf cs = t :: tagsOf left ∧ pendingOf cs = pendingOf left := by
  simp [tagsOf, pendingOf, Tag.scan_eq_of_read? h]

theorem tagsOf_cons_of_blocked {c : Char} {rest : List Char} (h : Tag.read? (c :: rest) = none)
    (hblocked : c ≠ '<' ∨ '<' ∈ rest) :
    tagsOf (c :: rest) = tagsOf rest ∧ pendingOf (c :: rest) = pendingOf rest := by
  have hlast : fromLast '<' (c :: rest) = fromLast '<' rest :=
    hblocked.elim fromLast_cons_of_ne fromLast_cons_of_mem
  rw [tagsOf, pendingOf, tagsOf, pendingOf, Tag.scan_cons_of_read? h]
  split
  · next hnil => exact ⟨hnil.symm, by rw [hlast, Tag.scan_of_fst_eq_nil hnil]⟩
  · exact ⟨rfl, rfl⟩

theorem tagsOf_of_not_mem {cs : List Char} (h : '<' ∉ cs) : tagsOf cs = [] ∧ pendingOf cs = [] := by
  have hnil : (Tag.scan cs).1 = [] := by
    by_contra hne
    exact h (Tag.mem_of_fst_scan_ne_nil hne)
  exact ⟨hnil, by rw [pendingOf, Tag.scan_of_fst_eq_nil hnil, fromLast_eq_nil_iff.2 h]⟩

/-- A tag without its end is no tag yet, and all of it is pending. -/
theorem tagsOf_of_not_read {rest : List Char} (hread : Tag.read? ('<' :: rest) = none)
    (h : '<' ∉ rest) : tagsOf ('<' :: rest) = [] ∧ pendingOf ('<' :: rest) = '<' :: rest := by
  have hnil : (Tag.scan rest).1 = [] := (tagsOf_of_not_mem h).1
  have hscan : Tag.scan ('<' :: rest) = ([], '<' :: rest) := by
    rw [Tag.scan_cons_of_read? hread, if_pos hnil]
  exact ⟨by rw [tagsOf, hscan], by rw [pendingOf, hscan, fromLast_cons_self h]⟩

/-- The tags of a text in two parts are those of the first part and those that the second part
makes with what is pending; what is pending in the end depends on no more than this. -/
theorem tagsOf_append (a b : List Char) :
    tagsOf (a ++ b) = tagsOf a ++ tagsOf (pendingOf a ++ b) ∧
      pendingOf (a ++ b) = pendingOf (pendingOf a ++ b) := by
  induction a using Tag.scanInduction with
  | nil => simp
  | tag cs left t hread ih =>
    obtain ⟨htags, hpending⟩ := tagsOf_of_read? hread
    obtain ⟨htags', hpending'⟩ := tagsOf_of_read? (Tag.read?_append hread b)
    rw [htags, htags', hpending, hpending', ih.1, ih.2]
    exact ⟨rfl, rfl⟩
  | char c rest hread ih =>
    by_cases hblocked : c ≠ '<' ∨ '<' ∈ rest
    · have hread' := Tag.read?_append_eq_none hread hblocked b
      have hblocked' : c ≠ '<' ∨ '<' ∈ rest ++ b := hblocked.imp_right (List.mem_append_left b)
      obtain ⟨htags, hpending⟩ := tagsOf_cons_of_blocked hread hblocked
      obtain ⟨htags', hpending'⟩ := tagsOf_cons_of_blocked hread' hblocked'
      rw [List.cons_append, htags, htags', hpending, hpending']
      exact ih
    · -- the text so far is an unfinished tag, and all of it is pending
      rw [not_or, not_not] at hblocked
      obtain ⟨rfl, hnot⟩ := hblocked
      obtain ⟨htags, hpending⟩ := tagsOf_of_not_read hread hnot
      rw [htags, hpending]
      exact ⟨rfl, rfl⟩

end SiteTemplate.Markup
