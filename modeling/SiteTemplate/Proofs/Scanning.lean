import Mathlib.Data.List.Basic
import Mathlib.Data.List.DropRight
import Mathlib.Data.List.TakeWhile
import SiteTemplate.Text.Characters
import SiteTemplate.Text.Strings

/-!
# Runs and literals at the start of a text

What `takeWhile`, `dropWhile` and the literal readers do on a text that is given as a run of
characters of one class followed by a text that does not go on with that class.
-/

namespace SiteTemplate.Text

/-- A statement about the characters of a list is decided on the list, not on all characters that
there are. -/
instance (priority := 2000) decidableForallMem (cs : List Char) (p : Char → Prop)
    [DecidablePred p] : Decidable (∀ c ∈ cs, p c) :=
  List.decidableBAll p cs

instance (priority := 2000) decidableExistsMem (cs : List Char) (p : Char → Prop)
    [DecidablePred p] : Decidable (∃ c ∈ cs, p c) :=
  List.decidableBEx p cs

theorem after?_eq_some_iff {lit : String} {cs left : List Char} :
    after? lit cs = some left ↔ cs = lit.toList ++ left := by
  rw [after?, List.isPrefixOf?_eq_some_iff_append_eq]
  exact eq_comm

@[simp] theorem after?_append (lit : String) (left : List Char) :
    after? lit (lit.toList ++ left) = some left :=
  after?_eq_some_iff.2 rfl

/-- A run is dropped as a whole before a text that does not go on with it. -/
theorem dropWhile_append_of_stop {p : Char → Bool} {run rest : List Char}
    (hrun : ∀ c ∈ run, p c = true) (hrest : rest.head?.any p = false) :
    (run ++ rest).dropWhile p = rest := by
  rw [List.dropWhile_append_of_pos hrun]
  cases rest with
  | nil => rfl
  | cons c rest => exact List.dropWhile_cons_of_neg (by simpa using hrest)

/-- A run is taken as a whole before a text that does not go on with it. -/
theorem takeWhile_append_of_stop {p : Char → Bool} {run rest : List Char}
    (hrun : ∀ c ∈ run, p c = true) (hrest : rest.head?.any p = false) :
    (run ++ rest).takeWhile p = run := by
  rw [List.takeWhile_append_of_pos hrun]
  cases rest with
  | nil => simp
  | cons c rest => rw [List.takeWhile_cons_of_neg (by simpa using hrest), List.append_nil]

/-- Where two runs of one class stop, they are the same. -/
theorem eq_of_runs {p : Char → Bool} {run run' rest rest' : List Char}
    (h : run ++ rest = run' ++ rest') (hrun : ∀ c ∈ run, p c = true)
    (hrest : rest.head?.any p = false) (hrun' : ∀ c ∈ run', p c = true)
    (hrest' : rest'.head?.any p = false) : run = run' ∧ rest = rest' := by
  have htake := congrArg (List.takeWhile p) h
  have hdrop := congrArg (List.dropWhile p) h
  rw [takeWhile_append_of_stop hrun hrest, takeWhile_append_of_stop hrun' hrest'] at htake
  rw [dropWhile_append_of_stop hrun hrest, dropWhile_append_of_stop hrun' hrest'] at hdrop
  exact ⟨htake, hdrop⟩

theorem afterSome?_eq_some {p : Char → Bool} {cs left : List Char}
    (h : afterSome? p cs = some left) :
    ∃ run, run ≠ [] ∧ (∀ c ∈ run, p c = true) ∧ cs = run ++ left := by
  cases cs with
  | nil => cases h
  | cons c cs =>
    simp only [afterSome?, Option.ite_none_right_eq_some, Option.some.injEq] at h
    obtain ⟨hc, rfl⟩ := h
    refine ⟨c :: cs.takeWhile p, by simp, ?_, by simp⟩
    intro x hx
    rcases List.mem_cons.1 hx with rfl | hx
    · exact hc
    · exact List.mem_takeWhile_imp hx

theorem afterSome?_append {p : Char → Bool} {run rest : List Char} (hne : run ≠ [])
    (hrun : ∀ c ∈ run, p c = true) (hrest : rest.head?.any p = false) :
    afterSome? p (run ++ rest) = some rest := by
  cases run with
  | nil => exact absurd rfl hne
  | cons c run =>
    rw [List.forall_mem_cons] at hrun
    simp [afterSome?, hrun.1, dropWhile_append_of_stop hrun.2 hrest]

/-- Blanks are trimmed as a whole before a text that does not start with one. -/
theorem trimStart_append_of_stop {blanks rest : List Char} (h : ∀ c ∈ blanks, isBlank c = true)
    (hrest : rest.head?.any isBlank = false) : trimStart (blanks ++ rest) = rest :=
  dropWhile_append_of_stop h hrest

/-- A text falls into the blanks at its start and the rest. -/
theorem exists_blanks_append_trimStart (cs : List Char) :
    ∃ blanks, (∀ c ∈ blanks, isBlank c = true) ∧ cs = blanks ++ trimStart cs :=
  ⟨cs.takeWhile isBlank, fun _ hc => List.mem_takeWhile_imp hc,
    List.takeWhile_append_dropWhile.symm⟩

theorem dropWhile_eq_self {p : Char → Bool} {cs : List Char} (h : cs.head?.any p = false) :
    cs.dropWhile p = cs := by
  cases cs with
  | nil => rfl
  | cons c cs => exact List.dropWhile_cons_of_neg (by simpa using h)

theorem dropWhile_isBlank_eq_self {cs : List Char} (h : ∀ c ∈ cs, isBlank c = false) :
    cs.dropWhile isBlank = cs := by
  cases cs with
  | nil => rfl
  | cons c cs => exact List.dropWhile_cons_of_neg (by simp [h c])

/-- A text without blanks is trimmed already. -/
theorem trim_eq_self {cs : List Char} (h : ∀ c ∈ cs, isBlank c = false) : trim cs = cs := by
  have hreverse : ∀ c ∈ cs.reverse, isBlank c = false := fun c hc => h c (List.mem_reverse.1 hc)
  rw [trim, trimBy, dropEndWhile, dropWhile_isBlank_eq_self h, dropWhile_isBlank_eq_self hreverse,
    List.reverse_reverse]

/-- A text with a character other than a blank at either end is trimmed already. -/
theorem trim_eq_self_of_ends {cs : List Char} (hfirst : cs.head?.any isBlank = false)
    (hlast : cs.getLast?.any isBlank = false) : trim cs = cs := by
  have hreverse : cs.reverse.head?.any isBlank = false := by rwa [List.head?_reverse]
  rw [trim, trimBy, dropEndWhile, dropWhile_eq_self hfirst, dropWhile_eq_self hreverse,
    List.reverse_reverse]

/-- What is left of a text does not start with what has been dropped. -/
theorem head?_dropWhile (p : Char → Bool) (cs : List Char) :
    (cs.dropWhile p).head?.any p = false := by
  have hhead := List.head?_dropWhile_not p cs
  cases hrest : (cs.dropWhile p).head? with
  | none => rfl
  | some c => simpa [hrest] using hhead

theorem getLast?_dropEndWhile (p : Char → Bool) (cs : List Char) :
    (dropEndWhile p cs).getLast?.any p = false := by
  rw [dropEndWhile, List.getLast?_reverse]
  exact head?_dropWhile p cs.reverse

theorem head?_trimStart (cs : List Char) : (trimStart cs).head?.any isBlank = false :=
  head?_dropWhile isBlank cs

theorem head?_trim (cs : List Char) : (trim cs).head?.any isBlank = false := by
  have hprefix : trim cs <+: cs.dropWhile isBlank := List.rdropWhile_prefix isBlank _
  cases htrim : trim cs with
  | nil => rfl
  | cons c rest =>
    rw [htrim] at hprefix
    obtain ⟨more, hmore⟩ := hprefix
    have hhead := head?_dropWhile isBlank cs
    rwa [← hmore] at hhead

theorem getLast?_trim (cs : List Char) : (trim cs).getLast?.any isBlank = false :=
  getLast?_dropEndWhile isBlank _

theorem trim_trim (cs : List Char) : trim (trim cs) = trim cs :=
  trim_eq_self_of_ends (head?_trim cs) (getLast?_trim cs)

theorem trim_append_blank {cs : List Char} {b : Char} (hne : cs ≠ [])
    (h : ∀ c ∈ cs, isBlank c = false) (hb : isBlank b = true) : trim (cs ++ [b]) = cs := by
  have hreverse : ∀ c ∈ cs.reverse, isBlank c = false := fun c hc => h c (List.mem_reverse.1 hc)
  have hstart : (cs ++ [b]).dropWhile isBlank = cs ++ [b] := by
    cases cs with
    | nil => exact absurd rfl hne
    | cons c cs => exact List.dropWhile_cons_of_neg (by simp [h c])
  rw [trim, trimBy, dropEndWhile, hstart, List.reverse_append, List.reverse_singleton,
    List.singleton_append, List.dropWhile_cons_of_pos hb, dropWhile_isBlank_eq_self hreverse,
    List.reverse_reverse]

/-- Blanks at the start make no difference to the last character that is kept. -/
theorem getLast?_trimEnd (cs : List Char) : (trimEnd cs).getLast? = (trim cs).getLast? := by
  have hlast (cs : List Char) :
      (dropEndWhile isBlank cs).getLast? = cs.reverse.find? (!isBlank ·) := by
    rw [dropEndWhile, List.getLast?_reverse, List.find?_eq_head?_dropWhile_not]
    simp
  obtain ⟨blanks, hblanks, hcs⟩ := exists_blanks_append_trimStart cs
  have hnone : blanks.reverse.find? (!isBlank ·) = none := by simpa using hblanks
  have hfind : cs.reverse.find? (!isBlank ·) = (trimStart cs).reverse.find? (!isBlank ·) := by
    conv_lhs => rw [hcs, List.reverse_append, List.find?_append, hnone, Option.or_none]
  rw [trimEnd, trim, trimBy, hlast, hlast, hfind]
  rfl

theorem occursIn_eq_true_iff {needle cs : List Char} :
    occursIn needle cs = true ↔ needle <:+: cs := by
  induction cs with
  | nil => rw [occursIn, List.isEmpty_iff, List.infix_nil]
  | cons c cs ih =>
    rw [occursIn, Bool.or_eq_true, List.isPrefixOf_iff_prefix, ih, List.infix_cons_iff]

theorem forall_bne_of_not_mem {c : Char} {cs : List Char} (h : c ∉ cs) :
    ∀ x ∈ cs, (x != c) = true := by
  intro x hx
  rw [bne_iff_ne]
  rintro rfl
  exact h hx

/-- A text without a character at the start of another stands before the place where the character
comes. -/
theorem exists_append_of_not_mem {text more start rest : List Char} {c : Char}
    (h : text ++ c :: more = start ++ rest) (hc : c ∉ start) :
    ∃ between, text = start ++ between ∧ rest = between ++ c :: more := by
  rcases List.append_eq_append_iff.1 h with ⟨between, hstart, hrest⟩ | ⟨between, htext, hrest⟩
  · cases between with
    | nil => exact ⟨[], by simpa using hstart.symm, by simpa using hrest.symm⟩
    | cons d between =>
      obtain ⟨rfl, -⟩ := List.cons.inj hrest
      exact absurd (by rw [hstart]; simp) hc
  · exact ⟨between, htext, hrest⟩

/-- A text without a character at the end of another stands behind the place where the character
comes. -/
theorem exists_cons_of_not_mem {text more start rest : List Char} {c : Char}
    (h : text ++ c :: more = start ++ rest) (hc : c ∉ rest) :
    ∃ between, start = text ++ c :: between ∧ more = between ++ rest := by
  rcases List.append_eq_append_iff.1 h with ⟨between, hstart, hrest⟩ | ⟨between, -, hrest⟩
  · cases between with
    | nil => exact absurd (by rw [← List.nil_append rest, ← hrest]; simp) hc
    | cons d between =>
      obtain ⟨rfl, hmore⟩ := List.cons.inj hrest
      exact ⟨between, hstart, hmore⟩
  · exact absurd (by rw [hrest]; simp) hc

theorem getLast?_cons_or (c : Char) (u : List Char) (b : Option Char) :
    (c :: u).getLast?.or b = u.getLast?.or (some c) := by
  rw [List.getLast?_cons]
  cases u.getLast? <;> rfl

namespace Recogniser

variable {α : Type} {r : Recogniser α} {before : Option Char}

theorem first?_cons_of_some {c : Char} {cs left : List Char} {a : α}
    (h : r before (c :: cs) = some (a, left)) : r.first? before (c :: cs) = some ⟨0, a⟩ := by
  rw [first?, h]

theorem first?_cons_of_none {c : Char} {cs : List Char} (h : r before (c :: cs) = none) :
    r.first? before (c :: cs)
      = (r.first? (some c) cs).map fun f => { f with offset := f.offset + 1 } := by
  rw [first?, h]

/-- Nothing is found in a run of characters with which no form starts. -/
theorem first?_append_of_none {u : List Char} (h : ∀ c ∈ u, ∀ b cs, r b (c :: cs) = none)
    (v : List Char) : r.first? before (u ++ v)
      = (r.first? (u.getLast?.or before) v).map fun f =>
        { f with offset := f.offset + u.length } := by
  induction u generalizing before with
  | nil =>
    change r.first? before v = (r.first? before v).map id
    rw [Option.map_id_fun, id]
  | cons c u ih =>
    rw [List.forall_mem_cons] at h
    rw [List.cons_append, first?_cons_of_none (h.1 _ _), ih h.2, getLast?_cons_or, Option.map_map]
    rfl

/-- A form that starts with none of the later characters is found at the start or not at all. -/
theorem first?_cons_of_forall_none {c : Char} {cs : List Char}
    (h : ∀ d ∈ cs, ∀ b more, r b (d :: more) = none) :
    r.first? before (c :: cs) = (r before (c :: cs)).map fun found => ⟨0, found.1⟩ := by
  cases hread : r before (c :: cs) with
  | some found => exact first?_cons_of_some hread
  | none =>
    have hmore : r.first? (some c) (cs ++ []) = none := first?_append_of_none h []
    rw [List.append_nil] at hmore
    rw [first?_cons_of_none hread, hmore]
    rfl

/-- A form is found where it is read at a place of the text. -/
theorem isSome_first?_iff_exists_append {cs : List Char} : (r.first? before cs).isSome = true ↔
    ∃ u v, cs = u ++ v ∧ v ≠ [] ∧ (r (u.getLast?.or before) v).isSome = true := by
  induction cs generalizing before with
  | nil =>
    refine iff_of_false (by simp [first?]) ?_
    rintro ⟨u, v, hcs, hne, -⟩
    exact hne (List.append_eq_nil_iff.1 hcs.symm).2
  | cons c cs ih =>
    cases hread : r before (c :: cs) with
    | some found =>
      rw [first?_cons_of_some hread]
      exact iff_of_true rfl ⟨[], c :: cs, rfl, List.cons_ne_nil _ _, Option.isSome_of_eq_some hread⟩
    | none =>
      rw [first?_cons_of_none hread, Option.isSome_map, ih]
      constructor
      · rintro ⟨u, v, rfl, hne, hsome⟩
        exact ⟨c :: u, v, rfl, hne, by rwa [getLast?_cons_or]⟩
      · rintro ⟨u, v, hcs, hne, hsome⟩
        cases u with
        | nil =>
          obtain rfl : c :: cs = v := hcs
          rw [List.getLast?_nil, Option.none_or, hread] at hsome
          cases hsome
        | cons d u =>
          obtain ⟨rfl, rfl⟩ := List.cons.inj hcs
          exact ⟨u, v, rfl, hne, by rwa [getLast?_cons_or] at hsome⟩

/-- What is read is at least one character of the text. -/
def Consumes (r : Recogniser α) : Prop :=
  ∀ ⦃before cs a left⦄, r before cs = some (a, left) → ∃ taken, taken ≠ [] ∧ cs = taken ++ left

theorem allFrom_cons_of_none {offset : Nat} {c : Char} {cs : List Char}
    (h : r before (c :: cs) = none) :
    r.allFrom offset before (c :: cs) = r.allFrom (offset + 1) (some c) cs := by
  rw [allFrom, h]

/-- How far a form goes that starts a text: how much shorter it leaves the text, and the character
with which it ends. -/
theorem exists_cons_append {taken : List Char} (hne : taken ≠ []) (left : List Char) :
    ∃ c cs, taken ++ left = c :: cs ∧ left.length < (c :: cs).length
      ∧ (c :: cs).length - left.length = taken.length
      ∧ (c :: cs)[taken.length - 1]? = taken.getLast? := by
  have hpos := List.length_pos_iff.2 hne
  obtain ⟨c, cs, hcs⟩ := List.exists_cons_of_ne_nil (List.append_ne_nil_of_left_ne_nil hne left)
  have hlength : (c :: cs).length = taken.length + left.length := by
    rw [← hcs, List.length_append]
  refine ⟨c, cs, hcs, by omega, by omega, ?_⟩
  rw [← hcs, List.getElem?_append_left (by omega), ← List.getLast?_eq_getElem?]

theorem allFrom_append_of_some {offset : Nat} {taken left : List Char} {a : α} (hne : taken ≠ [])
    (h : r before (taken ++ left) = some (a, left)) : r.allFrom offset before (taken ++ left)
      = ⟨offset, a⟩ :: r.allFrom (offset + taken.length) taken.getLast? left := by
  obtain ⟨c, cs, hcs, hlt, htaken, hlast⟩ := exists_cons_append hne left
  rw [hcs] at h ⊢
  rw [allFrom, h]
  dsimp only
  rw [if_pos hlt, htaken, hlast]

/-- What holds of the text before a place and the text behind it, and goes on to hold after each
step of a scan, holds where a form is found. -/
theorem exists_of_mem_allFrom (hr : r.Consumes) {Holds : List Char → List Char → Prop}
    (hskip : ∀ passed c rest, Holds passed (c :: rest) → r passed.getLast? (c :: rest) = none →
      Holds (passed ++ [c]) rest)
    (htake : ∀ passed taken left a, Holds passed (taken ++ left) →
      r passed.getLast? (taken ++ left) = some (a, left) → Holds (passed ++ taken) left)
    {passed cs : List Char} (hholds : Holds passed cs) {found : Found α}
    (h : found ∈ r.allFrom passed.length passed.getLast? cs) :
    ∃ start rest left, passed ++ cs = start ++ rest ∧ start.length = found.offset
      ∧ r start.getLast? rest = some (found.value, left) ∧ Holds start rest := by
  induction hn : cs.length using Nat.strongRecOn generalizing passed cs with
  | _ n ih =>
    subst hn
    cases cs with
    | nil => simp [allFrom] at h
    | cons c cs =>
      cases hread : r passed.getLast? (c :: cs) with
      | none =>
        rw [allFrom_cons_of_none hread] at h
        rw [← List.singleton_append, ← List.append_assoc]
        refine ih cs.length (by simp) (hskip _ _ _ hholds hread) ?_ rfl
        rwa [List.getLast?_concat, List.length_append, List.length_singleton]
      | some read =>
        obtain ⟨a, left⟩ := read
        obtain ⟨taken, hne, htaken⟩ := hr hread
        have hpos := List.length_pos_iff.2 hne
        have hlength := congrArg List.length htaken
        rw [List.length_append] at hlength
        rw [htaken] at hread hholds h ⊢
        rw [allFrom_append_of_some hne hread, List.mem_cons] at h
        rcases h with rfl | h
        · exact ⟨passed, _, left, rfl, rfl, hread, hholds⟩
        · rw [← List.append_assoc]
          refine ih left.length (by omega) (htake _ _ _ _ hholds hread) ?_ rfl
          rwa [List.length_append, List.getLast?_append_of_ne_nil _ hne]

end Recogniser

/-- The code points of the blanks. -/
def blankCodes : List Nat :=
  [9, 10, 11, 12, 13, 28, 29, 30, 31, 32, 0x85, 0xA0, 0x1680, 0x2000, 0x2001, 0x2002, 0x2003,
    0x2004, 0x2005, 0x2006, 0x2007, 0x2008, 0x2009, 0x200A, 0x2028, 0x2029, 0x202F, 0x205F, 0x3000]

private theorem mem_blankCodes_of_isBlank {c : Char} (h : isBlank c = true) :
    c.toNat ∈ blankCodes := by
  simp only [isBlank, isWhiteSpace, Bool.or_eq_true, Bool.and_eq_true, decide_eq_true_eq,
    beq_iff_eq] at h
  simp only [blankCodes, List.mem_cons, List.not_mem_nil, or_false]
  omega

/-- A property of all blanks can be checked on their code points. -/
theorem forall_isBlank {p : Char → Bool} (h : ∀ n ∈ blankCodes, p (Char.ofNat n) = true) {c : Char}
    (hc : isBlank c = true) : p c = true := by
  simpa only [Char.ofNat_toNat] using h _ (mem_blankCodes_of_isBlank hc)

theorem toNat_lt_of_isAsciiLetter {c : Char} (h : isAsciiLetter c = true) : c.toNat < 128 := by
  have hval : c.toNat = c.val.toNat := rfl
  have hlower : 'z'.val.toNat = 122 := rfl
  have hupper : 'Z'.val.toNat = 90 := rfl
  simp only [isAsciiLetter, Bool.or_eq_true, Bool.and_eq_true, decide_eq_true_eq, Char.le_def,
    UInt32.le_iff_toNat_le] at h
  omega

theorem isWordChar_of_isAsciiLetter {c : Char} (h : isAsciiLetter c = true) :
    isWordChar c = true := by
  simp [isWordChar, toNat_lt_of_isAsciiLetter h, h]

end SiteTemplate.Text
