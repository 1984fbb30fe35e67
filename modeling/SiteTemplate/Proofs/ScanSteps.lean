import SiteTemplate.Proofs.Scanning

/-!
# Steps of a scan

A recogniser is tried at every place of a text from left to right. Where it reads nothing, the
character there is kept; what it reads is taken, and the scan goes on behind it. So a scan that has
got past a part of the text has found some forms in it and kept the rest, and what it will find and
keep in the remaining text does not depend on how it got there.
-/

namespace SiteTemplate.Text.Recogniser

variable {α : Type} {r : Recogniser α} {before : Option Char}

theorem eraseFrom_cons_of_none {c : Char} {cs : List Char} (h : r before (c :: cs) = none) :
    r.eraseFrom before (c :: cs) = c :: r.eraseFrom (some c) cs := by
  rw [eraseFrom, h]

theorem eraseFrom_append_of_some {taken left : List Char} {a : α} (hne : taken ≠ [])
    (h : r before (taken ++ left) = some (a, left)) :
    r.eraseFrom before (taken ++ left) = r.eraseFrom taken.getLast? left := by
  obtain ⟨c, cs, hcs, hlt, htaken, hlast⟩ := exists_cons_append hne left
  rw [hcs] at h ⊢
  rw [eraseFrom, h]
  dsimp only
  rw [if_pos hlt, htaken, hlast]

/-- A scan of a text has got past `passed`, of which it has kept `kept`, and goes on with `rest`:
it keeps a character with which no form starts, and takes every form that it reads. -/
inductive Scanned (r : Recogniser α) (cs : List Char) :
    List Char → List Char → List Char → Prop where
  | start : Scanned r cs [] [] cs
  | keep {passed kept rest : List Char} {c : Char} (h : Scanned r cs passed kept (c :: rest))
      (hnone : r passed.getLast? (c :: rest) = none) :
      Scanned r cs (passed ++ [c]) (kept ++ [c]) rest
  | take {passed kept taken left : List Char} {a : α} (h : Scanned r cs passed kept (taken ++ left))
      (hne : taken ≠ []) (hread : r passed.getLast? (taken ++ left) = some (a, left)) :
      Scanned r cs (passed ++ taken) kept left

/-- A form is taken behind `start`. -/
def Takes (r : Recogniser α) (cs start taken left : List Char) (a : α) : Prop :=
  (∃ kept, Scanned r cs start kept (taken ++ left)) ∧ taken ≠ []
    ∧ r start.getLast? (taken ++ left) = some (a, left)

variable {cs passed kept rest start taken left : List Char} {a : α}

theorem Scanned.eq_append (h : Scanned r cs passed kept rest) : cs = passed ++ rest := by
  induction h with
  | start => rfl
  | keep _ _ ih => rw [ih, List.append_assoc, List.singleton_append]
  | take _ _ _ ih => rw [ih, List.append_assoc]

/-- What is kept of a text is what has been kept so far and what will be kept of the rest. -/
theorem Scanned.eraseFrom_eq (h : Scanned r cs passed kept rest) :
    r.eraseFrom none cs = kept ++ r.eraseFrom passed.getLast? rest := by
  induction h with
  | start => rfl
  | keep _ hnone ih =>
    rw [ih, eraseFrom_cons_of_none hnone, List.getLast?_concat, List.append_assoc,
      List.singleton_append]
  | take _ hne hread ih =>
    rw [ih, eraseFrom_append_of_some hne hread, List.getLast?_append_of_ne_nil _ hne]

private theorem Scanned.allFrom_subset (h : Scanned r cs passed kept rest) :
    r.allFrom passed.length passed.getLast? rest ⊆ r.all cs := by
  induction h with
  | start => exact List.Subset.refl _
  | keep _ hnone ih =>
    rw [allFrom_cons_of_none hnone] at ih
    simpa using ih
  | take _ hne hread ih =>
    rw [allFrom_append_of_some hne hread] at ih
    rw [List.length_append, List.getLast?_append_of_ne_nil _ hne]
    exact List.Subset.trans (List.subset_cons_self _ _) ih

theorem Takes.mem_all (h : Takes r cs start taken left a) : ⟨start.length, a⟩ ∈ r.all cs := by
  obtain ⟨⟨kept, hscanned⟩, hne, hread⟩ := h
  apply hscanned.allFrom_subset
  rw [allFrom_append_of_some hne hread]
  exact List.mem_cons_self

theorem Takes.eq_append (h : Takes r cs start taken left a) : cs = start ++ (taken ++ left) := by
  obtain ⟨⟨kept, hscanned⟩, -, -⟩ := h
  exact hscanned.eq_append

/-- A scan gets to every place that does not lie within a form which it takes. -/
theorem scanned_or_takes (hr : r.Consumes) {u v : List Char} (hcs : cs = u ++ v) :
    (∃ kept, Scanned r cs u kept v)
    ∨ ∃ start taken left a, Takes r cs start taken left a ∧ start.length < u.length
      ∧ u.length < start.length + taken.length := by
  induction u using List.reverseRecOn generalizing v with
  | nil =>
    obtain rfl : cs = v := hcs
    exact .inl ⟨[], .start⟩
  | append_singleton u c ih =>
    rw [List.append_assoc, List.singleton_append] at hcs
    rw [List.length_append, List.length_singleton]
    rcases ih hcs with ⟨kept, hscanned⟩ | ⟨start, taken, left, a, htakes, hstart, hend⟩
    · cases hread : r u.getLast? (c :: v) with
      | none => exact .inl ⟨_, hscanned.keep hread⟩
      | some found =>
        -- The scan gets behind the character only if the form is no longer than it.
        obtain ⟨a, left⟩ := found
        obtain ⟨taken, hne, htaken⟩ := hr hread
        rw [htaken] at hscanned hread
        match taken, hne with
        | [d], hne =>
          obtain ⟨rfl, rfl⟩ := List.cons.inj htaken
          exact .inl ⟨kept, hscanned.take hne hread⟩
        | d :: e :: taken, hne =>
          exact .inr ⟨u, _, left, a, ⟨⟨kept, hscanned⟩, hne, hread⟩, by omega, by simp⟩
    · by_cases hlength : u.length + 1 < start.length + taken.length
      · exact .inr ⟨start, taken, left, a, htakes, by omega, hlength⟩
      · -- The form ends with the character.
        have hsplit : (start ++ taken) ++ left = (u ++ [c]) ++ v := by
          rw [List.append_assoc, ← htakes.eq_append, hcs, List.append_assoc, List.singleton_append]
        obtain ⟨hpassed, rfl⟩ := List.append_inj hsplit (by simp; omega)
        obtain ⟨⟨kept, hscanned⟩, hne, hread⟩ := htakes
        exact .inl ⟨kept, hpassed ▸ hscanned.take hne hread⟩

/-- A scan keeps a stretch of the text, or a form is taken that starts in it. -/
theorem Scanned.keep_or_takes (hr : r.Consumes) {u w v : List Char}
    (h : Scanned r cs u kept (w ++ v)) :
    Scanned r cs (u ++ w) (kept ++ w) v
    ∨ ∃ start taken left a, Takes r cs start taken left a ∧ u.length ≤ start.length
      ∧ start.length < u.length + w.length := by
  induction w generalizing u kept with
  | nil => exact .inl (by simpa using h)
  | cons c w ih =>
    cases hread : r u.getLast? (c :: w ++ v) with
    | some found =>
      obtain ⟨a, left⟩ := found
      obtain ⟨taken, hne, htaken⟩ := hr hread
      rw [htaken] at h hread
      exact .inr ⟨u, taken, left, a, ⟨⟨kept, h⟩, hne, hread⟩, le_rfl, by simp⟩
    | none =>
      rcases ih (h.keep hread) with hkept | ⟨start, taken, left, a, htakes, hstart, hend⟩
      · exact .inl (by simpa using hkept)
      · rw [List.length_append, List.length_singleton] at hstart hend
        rw [List.length_cons]
        exact .inr ⟨start, taken, left, a, htakes, by omega, by omega⟩

/-- What is kept of the rest is kept at a place to which the scan gets. -/
theorem Scanned.exists_of_eraseFrom (hr : r.Consumes) {x w : List Char} {c : Char}
    (h : Scanned r cs passed kept rest) (herase : r.eraseFrom passed.getLast? rest = x ++ c :: w) :
    ∃ passed' rest', Scanned r cs passed' (kept ++ x) (c :: rest')
      ∧ r passed'.getLast? (c :: rest') = none ∧ r.eraseFrom (some c) rest' = w := by
  -- By induction on the length of the rest, of which a form may take several characters at once.
  induction hn : rest.length using Nat.strongRecOn generalizing passed kept rest x with
  | _ n ih =>
    subst hn
    cases rest with
    | nil => simp [eraseFrom] at herase
    | cons d rest =>
      cases hread : r passed.getLast? (d :: rest) with
      | none =>
        rw [eraseFrom_cons_of_none hread] at herase
        cases x with
        | nil =>
          obtain ⟨rfl, hw⟩ := List.cons.inj herase
          exact ⟨passed, rest, by simpa using h, hread, hw⟩
        | cons e x =>
          obtain ⟨rfl, hx⟩ := List.cons.inj herase
          have hnext := ih rest.length (by simp) (h.keep hread) (x := x)
            (by rwa [List.getLast?_concat]) rfl
          rwa [List.append_assoc, List.singleton_append] at hnext
      | some found =>
        obtain ⟨a, left⟩ := found
        obtain ⟨taken, hne, htaken⟩ := hr hread
        have hpos := List.length_pos_iff.2 hne
        have hlength := congrArg List.length htaken
        rw [List.length_append] at hlength
        rw [htaken] at h hread herase
        rw [eraseFrom_append_of_some hne hread] at herase
        exact ih left.length (by omega) (h.take hne hread)
          (by rwa [List.getLast?_append_of_ne_nil _ hne]) rfl

/-- A form that is found in the text starts in the rest, or it ends in what the scan has got
past. -/
theorem Scanned.mem_or_le (h : Scanned r cs passed kept rest) {f : Found α} (hf : f ∈ r.all cs)
    (hcs : cs.drop f.offset = taken ++ left)
    (hread : r (cs.take f.offset).getLast? (taken ++ left) = some (f.value, left)) :
    f ∈ r.allFrom passed.length passed.getLast? rest ∨ f.offset + taken.length ≤ passed.length := by
  induction h with
  | start => exact .inl hf
  | keep _ hnone ih =>
    rw [List.length_append, List.length_singleton, List.getLast?_concat]
    rcases ih with hmem | hend
    · rw [allFrom_cons_of_none hnone] at hmem
      exact .inl hmem
    · exact .inr (by omega)
  | @take passed kept taken' left' a h hne hread' ih =>
    rw [List.length_append, List.getLast?_append_of_ne_nil _ hne]
    rcases ih with hmem | hend
    · rw [allFrom_append_of_some hne hread', List.mem_cons] at hmem
      rcases hmem with rfl | hmem
      · dsimp only at hcs hread ⊢
        rw [h.eq_append, List.drop_left] at hcs
        rw [h.eq_append, List.take_left, ← hcs, hread'] at hread
        obtain ⟨-, rfl⟩ := Prod.mk.inj (Option.some.inj hread)
        rw [List.append_cancel_right hcs]
        exact .inr le_rfl
      · exact .inl hmem
    · exact .inr (by omega)

theorem le_offset_of_mem_allFrom {offset : Nat} {f : Found α}
    (hf : f ∈ r.allFrom offset before cs) : offset ≤ f.offset := by
  fun_induction allFrom r offset before cs with
  | case1 => cases hf
  | case2 offset before c rest a left _ hlt taken ih =>
    rcases List.mem_cons.1 hf with rfl | hf
    · exact le_rfl
    · have := ih hf
      omega
  | case3 offset before c rest a left _ hlt ih =>
    rcases List.mem_cons.1 hf with rfl | hf
    · exact le_rfl
    · have := ih hf
      omega
  | case4 offset before c rest _ ih =>
    have := ih hf
    omega

end SiteTemplate.Text.Recogniser
