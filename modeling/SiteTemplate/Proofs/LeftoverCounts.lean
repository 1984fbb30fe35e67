import Mathlib.Algebra.BigOperators.Group.List.Basic
import SiteTemplate.Proofs.Seams
import SiteTemplate.Proofs.ValidationByFile

/-!
# Leftovers, counted and cut

A text is cut into pieces by one scan for all forms, and its leftovers are counted by one scan for
each kind. The scans agree because forms do not overlap, except that a form may stand within the
key of a `data` form: a scan for one kind meets the forms of that kind among the pieces, and those
within the keys of the `data` forms among them.
-/

namespace SiteTemplate

open Text

private theorem Text.Recogniser.allFrom_eq_nil_iff {α : Type} {r : Recogniser α} {offset : Nat}
    {before : Option Char} {cs : List Char} :
    r.allFrom offset before cs = [] ↔ r.first? before cs = none := by
  induction cs generalizing offset before with
  | nil => simp [Recogniser.allFrom, Recogniser.first?]
  | cons c cs ih =>
    rw [Recogniser.allFrom, Recogniser.first?]
    cases r before (c :: cs) with
    | none => simp [ih]
    | some found =>
      dsimp only
      split <;> simp

namespace Placeholder

/-- The number of forms of one kind that a scan for this kind finds. -/
def formCount (k : Kind) (cs : List Char) : Nat := (k.recogniser.all cs).length

theorem leftoverCount_eq_formCount (k : Kind) (text : String) :
    leftoverCount k text = formCount k text.toList := rfl

theorem length_allFrom (k : Kind) (offset : Nat) (before : Option Char) (cs : List Char) :
    (k.recogniser.allFrom offset before cs).length = formCount k cs := by
  suffices h : ∀ i b j b', (k.recogniser.allFrom i b cs).length
      = (k.recogniser.allFrom j b' cs).length from h _ _ _ _
  induction hn : cs.length using Nat.strongRecOn generalizing cs with
  | _ n ih =>
    subst hn
    intro i b j b'
    cases cs with
    | nil => simp [Recogniser.allFrom]
    | cons c cs =>
      have hread (b : Option Char) : k.recogniser b (c :: cs) = k.read? (c :: cs) := rfl
      rw [Recogniser.allFrom, Recogniser.allFrom, hread, hread]
      cases k.read? (c :: cs) with
      | none => exact ih cs.length (by simp) cs rfl _ _ _ _
      | some found =>
        dsimp only
        split
        · next hlt => exact congrArg (· + 1) (ih _ hlt _ rfl _ _ _ _)
        · exact congrArg (· + 1) (ih cs.length (by simp) cs rfl _ _ _ _)

@[simp] theorem formCount_nil (k : Kind) : formCount k [] = 0 := by
  simp [formCount, Recogniser.all, Recogniser.allFrom]

theorem formCount_cons_of_none {k : Kind} {c : Char} {cs : List Char}
    (h : k.read? (c :: cs) = none) : formCount k (c :: cs) = formCount k cs := by
  have hread : k.recogniser none (c :: cs) = none := h
  rw [formCount, Recogniser.all, Recogniser.allFrom, hread, length_allFrom]

private theorem Kind.kind_of_read? {k : Kind} {cs left : List Char} {f : Form}
    (h : k.read? cs = some (f, left)) : f.kind = k := by
  cases k with
  | tw | text | img =>
    obtain ⟨rest, -, heq⟩ := Option.map_eq_some_iff.1 h
    cases heq
    rfl
  | data =>
    obtain ⟨w, hw, rfl, rfl⟩ := exists_data_of_readData? h
    cases w with
    | data blanks key => rfl
    | _ => cases h
  | slot =>
    obtain ⟨w, hw, rfl, rfl⟩ := exists_slot_of_readSlot? h
    cases w with
    | slot before path after => rfl
    | _ => cases h

theorem Kind.read?_chars {w : Written} (h : w.Proper) (left : List Char) :
    w.kind.read? (w.chars ++ left) = some (w.form, left) := by
  cases w with
  | tw | text | img => rfl
  | data blanks key => exact readData?_data h left
  | slot before path after => exact readSlot?_slot h left

/-- A form of a kind is read exactly where a properly written form of this kind stands. -/
theorem Kind.read?_eq_some_iff {k : Kind} {cs left : List Char} {f : Form} :
    k.read? cs = some (f, left) ↔
      ∃ w : Written, w.Proper ∧ w.kind = k ∧ w.form = f ∧ cs = w.chars ++ left := by
  constructor
  · intro h
    obtain ⟨w, hw, rfl, rfl⟩ := Kind.exists_written_of_read? h
    exact ⟨w, hw, (Written.kind_form w).symm.trans (Kind.kind_of_read? h), rfl, rfl⟩
  · rintro ⟨w, hw, rfl, rfl, rfl⟩
    exact Kind.read?_chars hw left

theorem Kind.read?_eq_none_iff {k : Kind} {cs : List Char} :
    k.read? cs = none ↔ ∀ w : Written, w.Proper → w.kind = k → ¬ w.chars <+: cs := by
  constructor
  · rintro h w hw rfl ⟨left, rfl⟩
    rw [Kind.read?_chars hw] at h
    cases h
  · intro h
    by_contra hsome
    obtain ⟨⟨f, left⟩, hread⟩ := Option.ne_none_iff_exists'.1 hsome
    obtain ⟨w, hw, hk, -, rfl⟩ := Kind.read?_eq_some_iff.1 hread
    exact h w hw hk (List.prefix_append _ _)

theorem Kind.read?_chars_of_ne {k : Kind} {w : Written} (hw : w.Proper) (hk : w.kind ≠ k)
    (left : List Char) : k.read? (w.chars ++ left) = none := by
  refine Kind.read?_eq_none_iff.2 ?_
  rintro v hv rfl ⟨more, heq⟩
  have hsame := Form.read?_chars hv more
  rw [heq, Form.read?_chars hw] at hsame
  have hform : w.form = v.form := congrArg Prod.fst (Option.some.inj hsame)
  rw [← Written.kind_form, ← Written.kind_form, hform] at hk
  exact hk rfl

theorem formCount_chars_append {w : Written} (h : w.Proper) (rest : List Char) :
    formCount w.kind (w.chars ++ rest) = 1 + formCount w.kind rest := by
  have hread := Kind.read?_chars h rest
  have hpos : 0 < w.chars.length := List.length_pos_iff.2 w.chars_ne_nil
  cases hcs : w.chars ++ rest with
  | nil => exact absurd (List.append_eq_nil_iff.1 hcs).1 w.chars_ne_nil
  | cons c cs =>
    have hlen : rest.length < (c :: cs).length := by
      rw [← hcs, List.length_append]
      omega
    rw [hcs] at hread
    have hfirst : w.kind.recogniser none (c :: cs) = some (w.form, rest) := hread
    rw [formCount, Recogniser.all, Recogniser.allFrom, hfirst]
    dsimp only
    rw [if_pos hlen, List.length_cons, length_allFrom, Nat.add_comm]

/-- The character with which the forms of a kind start. -/
def Kind.opener : Kind → Char
  | .slot => '\x7b'
  | _ => '<'

private theorem Written.head?_chars_eq (w : Written) : w.chars.head? = some w.kind.opener := by
  cases w <;> rfl

theorem Kind.read?_cons_of_ne {k : Kind} {c : Char} (h : c ≠ k.opener) (cs : List Char) :
    k.read? (c :: cs) = none := by
  refine Kind.read?_eq_none_iff.2 ?_
  rintro w - rfl ⟨left, heq⟩
  have hhead := congrArg List.head? heq
  rw [List.head?_append_of_ne_nil _ w.chars_ne_nil, w.head?_chars_eq] at hhead
  exact h (Option.some.inj hhead).symm

theorem formCount_append_of_not_mem {k : Kind} {a : List Char} (h : k.opener ∉ a)
    (b : List Char) : formCount k (a ++ b) = formCount k b := by
  induction a with
  | nil => rfl
  | cons c a ih =>
    rw [List.mem_cons, not_or] at h
    rw [List.cons_append, formCount_cons_of_none (Kind.read?_cons_of_ne (Ne.symm h.1) _), ih h.2]

/-- Where no form of a kind lies across the seam of two texts, those of both together are those of
the one and those of the other. -/
theorem formCount_append {k : Kind} {a b : List Char}
    (h : ∀ w : Written, w.Proper → w.kind = k → ∀ front back, w.chars = front ++ back →
      front <:+ a → back <+: b → back = []) :
    formCount k (a ++ b) = formCount k a + formCount k b := by
  induction hn : a.length using Nat.strongRecOn generalizing a with
  | _ n ih =>
    subst hn
    cases hread : k.read? (a ++ b) with
    | some found =>
      obtain ⟨f, left⟩ := found
      obtain ⟨w, hw, rfl, -, heq⟩ := Kind.read?_eq_some_iff.1 hread
      -- The form ends within `a`, as it does not lie across the seam.
      obtain ⟨more, rfl⟩ : ∃ more, a = w.chars ++ more := by
        rcases List.append_eq_append_iff.1 heq with ⟨back, hchars, hb⟩ | ⟨more, ha, -⟩
        · have hnil := h w hw rfl a back hchars List.suffix_rfl ⟨left, hb.symm⟩
          exact ⟨[], by simp [hchars, hnil]⟩
        · exact ⟨more, ha⟩
      have hpos : 0 < w.chars.length := List.length_pos_iff.2 w.chars_ne_nil
      have hmore : formCount w.kind (more ++ b) = formCount w.kind more + formCount w.kind b :=
        ih more.length (by simp only [List.length_append]; omega)
          (fun v hv hk front back hchars hfront hback =>
            h v hv hk front back hchars (hfront.trans (List.suffix_append _ _)) hback) rfl
      rw [List.append_assoc, formCount_chars_append hw, formCount_chars_append hw, hmore,
        Nat.add_assoc]
    | none =>
      cases a with
      | nil => simp
      | cons c a =>
        have hnone : k.read? (c :: a) = none :=
          Kind.read?_eq_none_iff.2 fun w hw hk hpre =>
            Kind.read?_eq_none_iff.1 hread w hw hk (hpre.trans (List.prefix_append _ _))
        have hrest : formCount k (a ++ b) = formCount k a + formCount k b :=
          ih a.length (by simp) (fun v hv hk front back hchars hfront hback =>
            h v hv hk front back hchars (hfront.trans (List.suffix_cons _ _)) hback) rfl
        rw [List.cons_append] at hread ⊢
        rw [formCount_cons_of_none hread, formCount_cons_of_none hnone, hrest]

theorem Written.not_mem_chars_slot {before path after : List Char}
    (h : (Written.slot before path after).Proper) {c : Char} (hblank : isBlank c = false)
    (hpart : isPathPart c = false) (hopen : c ≠ '\x7b') (hclose : c ≠ '\x7d') :
    c ∉ (Written.slot before path after).chars := by
  obtain ⟨hbefore, hpath, hafter⟩ := h
  have hbeforeC : c ∉ before := fun hc => by simp [hbefore c hc] at hblank
  have hpathC : c ∉ path := fun hc => by simp [isPathPart_of_slotPath hpath c hc] at hpart
  have hafterC : c ∉ after := fun hc => by simp [hafter c hc] at hblank
  simp [Written.chars_slot, hbeforeC, hpathC, hafterC, hopen, hclose]

theorem Written.quote_mem_chars_iff {w : Written} (h : w.Proper) :
    '"' ∈ w.chars ↔ w.kind = .data := by
  cases w with
  | tw | text | img => decide
  | data blanks key => simp [Written.chars_data, Written.kind]
  | slot before path after =>
    have hnot : '"' ∉ (Written.slot before path after).chars :=
      Written.not_mem_chars_slot h (by decide) (by decide) (by decide) (by decide)
    simp [hnot, Written.kind]

private theorem formCount_eq_zero {k : Kind} {cs : List Char}
    (h : ∀ w : Written, w.Proper → w.kind = k → ¬ w.chars <:+: cs) : formCount k cs = 0 := by
  induction cs with
  | nil => exact formCount_nil k
  | cons c cs ih =>
    have hnone : k.read? (c :: cs) = none :=
      Kind.read?_eq_none_iff.2 fun w hw hk hpre => h w hw hk hpre.isInfix
    rw [formCount_cons_of_none hnone]
    exact ih fun w hw hk hin => h w hw hk (hin.trans (List.suffix_cons _ _).isInfix)

theorem formCount_data_of_not_mem {key : List Char} (h : '"' ∉ key) : formCount .data key = 0 :=
  formCount_eq_zero fun _ hw hk hin => h (hin.subset ((Written.quote_mem_chars_iff hw).2 hk))

private theorem formCount_append_quote {k : Kind} (hk : k ≠ .data) (a b : List Char) :
    formCount k (a ++ '"' :: b) = formCount k a + formCount k b := by
  have hopener : '"' ≠ k.opener := by cases k <;> decide
  rw [formCount_append, formCount_cons_of_none (Kind.read?_cons_of_ne hopener b)]
  rintro _ hw rfl _ back hchars - hback
  cases back with
  | nil => rfl
  | cons c back =>
    obtain rfl : c = '"' := (List.cons_prefix_cons.1 hback).1
    exact absurd ((Written.quote_mem_chars_iff hw).1 (by simp [hchars])) hk

theorem not_isBlank_opener (k : Kind) : isBlank k.opener = false := by
  cases k <;> decide

theorem formCount_blanks_append {k : Kind} {blanks : List Char}
    (h : ∀ c ∈ blanks, isBlank c = true) (cs : List Char) :
    formCount k (blanks ++ cs) = formCount k cs :=
  formCount_append_of_not_mem (fun hmem => by simpa [not_isBlank_opener] using h _ hmem) cs

private theorem formCount_append_blanks {k : Kind} {blanks : List Char}
    (h : ∀ c ∈ blanks, isBlank c = true) (cs : List Char) :
    formCount k (cs ++ blanks) = formCount k cs := by
  have hblanks : formCount k blanks = 0 := by simpa using formCount_blanks_append h []
  rw [formCount_append, hblanks, Nat.add_zero]
  intro w _ _ front back hchars _ hback
  by_contra hne
  -- The last character of a form is no blank.
  have hlast := w.getLast?_chars
  rw [hchars, List.getLast?_append_of_ne_nil _ hne] at hlast
  rcases hlast with hlast | hlast
  · exact absurd (h _ (hback.subset (List.mem_of_getLast? hlast))) (by decide)
  · exact absurd (h _ (hback.subset (List.mem_of_getLast? hlast))) (by decide)

theorem formCount_trim (k : Kind) (cs : List Char) : formCount k (trim cs) = formCount k cs := by
  have hend : ∃ blanks, (∀ c ∈ blanks, isBlank c = true) ∧ trimStart cs = trim cs ++ blanks := by
    obtain ⟨blanks, hblanks, heq⟩ := exists_blanks_append_trimStart (trimStart cs).reverse
    refine ⟨blanks.reverse, fun c hc => hblanks c (List.mem_reverse.1 hc), ?_⟩
    have hreverse := congrArg List.reverse heq
    rwa [List.reverse_reverse, List.reverse_append] at hreverse
  obtain ⟨before, hbefore, hcs⟩ := exists_blanks_append_trimStart cs
  obtain ⟨after, hafter, htrim⟩ := hend
  rw [hcs, formCount_blanks_append hbefore, ← hcs, htrim, formCount_append_blanks hafter]

/-- The forms of a kind within the key of a `data` form. -/
def Form.nested (k : Kind) : Form → Nat
  | .data key => formCount k key
  | _ => 0

private theorem formCount_data_append {k : Kind} (hk : k ≠ .data) {blanks key : List Char}
    (h : (Written.data blanks key).Proper) (rest : List Char) :
    formCount k ((Written.data blanks key).chars ++ rest)
      = formCount k key + formCount k rest := by
  have hnone := Kind.read?_chars_of_ne h (Ne.symm hk) rest
  obtain ⟨-, hblanks, -, -⟩ := h
  have hbefore : k.opener ∉ "data".toList ++ (blanks ++ "key=\"".toList) := by
    have hopener : k.opener ∉ blanks := fun hmem => by
      simpa [not_isBlank_opener] using hblanks _ hmem
    have hword : k.opener ∉ "data".toList ∧ k.opener ∉ "key=\"".toList := by
      cases k <;> decide
    simp only [List.mem_append, hopener, hword, or_self, not_false_eq_true]
  have hafter : k.opener ∉ "/>".toList := by cases k <;> decide
  have hsplit : (Written.data blanks key).chars ++ rest
      = '<' :: (("data".toList ++ (blanks ++ "key=\"".toList)) ++
        (key ++ '"' :: ("/>".toList ++ rest))) := by
    simp [Written.chars_data]
  rw [hsplit] at hnone ⊢
  rw [formCount_cons_of_none hnone, formCount_append_of_not_mem hbefore,
    formCount_append_quote hk, formCount_append_of_not_mem hafter]

/-- A scan for one kind meets a form of this kind and goes past any other form, but for the forms
within its key. -/
theorem formCount_chars (k : Kind) {w : Written} (h : w.Proper) (rest : List Char) :
    formCount k (w.chars ++ rest)
      = (if w.kind = k then 1 else 0) + w.form.nested k + formCount k rest := by
  by_cases hk : w.kind = k
  · subst hk
    have hnested : w.form.nested w.kind = 0 := by
      cases w with
      | data blanks key => exact formCount_data_of_not_mem h.2.2.2
      | _ => rfl
    rw [formCount_chars_append h, if_pos rfl, hnested]
  · rw [if_neg hk, Nat.zero_add]
    cases w with
    | tw | text | img =>
      have hnone := Kind.read?_chars_of_ne h hk rest
      refine ((formCount_cons_of_none hnone).trans (formCount_append_of_not_mem ?_ rest)).trans
        (Nat.zero_add _).symm
      cases k <;> decide
    | data blanks key => exact formCount_data_append (Ne.symm hk) h rest
    | slot before path after =>
      have hopener : k.opener = '<' := by
        cases k with
        | slot => exact absurd rfl hk
        | _ => rfl
      have hnot : k.opener ∉ (Written.slot before path after).chars :=
        hopener ▸ Written.not_mem_chars_slot h (by decide) (by decide) (by decide) (by decide)
      rw [formCount_append_of_not_mem hnot]
      exact (Nat.zero_add _).symm

/-- The forms of a kind that a piece accounts for. -/
def Piece.formCount (k : Kind) : Piece → Nat
  | .literal _ => 0
  | .form f _ => (if f.kind = k then 1 else 0) + f.nested k

private theorem sum_formCount_pushChar (k : Kind) (c : Char) (ps : List Piece) :
    ((pushChar c ps).map (Piece.formCount k)).sum = (ps.map (Piece.formCount k)).sum := by
  cases ps with
  | nil => rfl
  | cons p ps => cases p <;> simp [pushChar, Piece.formCount]

private theorem formCount_eq_sum (k : Kind) (cs : List Char) :
    formCount k cs = ((pieces cs).map (Piece.formCount k)).sum := by
  induction cs using piecesInduction with
  | nil => simp
  | form w rest hw ih =>
    rw [formCount_chars k hw, pieces_chars_append hw, List.map_cons, List.sum_cons, ih,
      Piece.formCount, Written.kind_form]
  | char c rest hnone ih =>
    have hread : k.read? (c :: rest) = none :=
      Kind.read?_eq_none_iff.2 fun w hw _ => hnone w hw
    rw [formCount_cons_of_none hread, pieces_cons hnone, sum_formCount_pushChar, ih]

/-- The number of placeholders of a kind. -/
def kindCount (k : Kind) (ps : List Placeholder) : Nat := ps.countP (·.kind == k)

/-- The number of forms of a kind within the keys of the `data` placeholders. -/
def keyCount (k : Kind) (ps : List Placeholder) : Nat :=
  ((ps.filter (·.kind == .data)).map fun p => leftoverCount k (p.key.getD "")).sum

private theorem kindCount_cons (k : Kind) (p : Placeholder) (ps : List Placeholder) :
    kindCount k (p :: ps) = (if p.kind = k then 1 else 0) + kindCount k ps := by
  simp [kindCount, List.countP_cons, Nat.add_comm]

private theorem keyCount_cons (k : Kind) (p : Placeholder) (ps : List Placeholder) :
    keyCount k (p :: ps)
      = (if p.kind = .data then leftoverCount k (p.key.getD "") else 0) + keyCount k ps := by
  by_cases h : p.kind = .data <;> simp [keyCount, h]

private theorem nested_eq (k : Kind) (f : Form) :
    f.nested k = if f.kind = .data then leftoverCount k (f.key?.getD "") else 0 := by
  cases f with
  | data key =>
    simp [Form.nested, Form.kind, Form.key?, leftoverCount_eq_formCount, formCount_trim]
  | _ => rfl

private theorem sum_formCount_eq (k : Kind) (file : String) (c : Cursor) (ps : List Piece) :
    (ps.map (Piece.formCount k)).sum
      = kindCount k ((annotate file c ps).filterMap (·.marker?))
        + keyCount k ((annotate file c ps).filterMap (·.marker?)) := by
  induction ps generalizing c with
  | nil => rfl
  | cons p ps ih =>
    rw [List.map_cons, List.sum_cons, ih (c.advance p), annotate_cons]
    cases p with
    | literal cs => exact Nat.zero_add _
    | form f raw =>
      have hmarker : (c.segment file (.form f raw)).marker?
          = some { kind := f.kind, key := f.key?, position := c.position, line := c.line
                   raw := .ofList raw, context := c.markup.context file } := rfl
      rw [List.filterMap_cons_some hmarker, kindCount_cons, keyCount_cons, Piece.formCount,
        nested_eq]
      exact Nat.add_add_add_comm _ _ _ _

theorem leftoverCount_eq_add (k : Kind) (text file : String) :
    leftoverCount k text = kindCount k (inText text file) + keyCount k (inText text file) := by
  rw [leftoverCount_eq_formCount, formCount_eq_sum, sum_formCount_eq]
  rfl

private theorem keyCount_data (text file : String) : keyCount .data (inText text file) = 0 := by
  refine List.sum_eq_zero ?_
  simp only [List.mem_map, List.mem_filter, beq_iff_eq]
  rintro _ ⟨p, ⟨hp, hdata⟩, rfl⟩
  obtain ⟨w, hw, -, hkind, hkey⟩ := exists_written_of_mem_segments (mem_inText_iff.1 hp)
  cases w with
  | data blanks key =>
    have hzero : formCount .data key = 0 := formCount_data_of_not_mem hw.2.2.2
    simpa [hkey, Written.form, Form.key?, leftoverCount_eq_formCount, formCount_trim] using hzero
  | _ => cases hkind.symm.trans hdata

theorem hasLeftover_iff_exists_count {text : String} :
    hasLeftover text = true ↔ ∃ k, 0 < leftoverCount k text := by
  have hcount (k : Kind) :
      k.recogniser.occurs text.toList = true ↔ 0 < leftoverCount k text := by
    rw [leftoverCount, List.length_pos_iff, leftovers, Recogniser.all, Ne,
      Recogniser.allFrom_eq_nil_iff, Recogniser.occurs, Option.isSome_iff_ne_none]
  have hall (k : Kind) : k ∈ Kind.all := by cases k <;> decide
  simp [hasLeftover, hcount, hall]

private theorem exists_count_iff {text file : String} :
    (∃ k, 0 < leftoverCount k text) ↔ inText text file ≠ [] := by
  constructor
  · rintro ⟨k, hpos⟩ hnil
    rw [leftoverCount_eq_add k text file, hnil] at hpos
    exact absurd hpos (by simp [kindCount, keyCount])
  · intro hne
    obtain ⟨p, hp⟩ := List.exists_mem_of_ne_nil _ hne
    have hpos : 0 < kindCount p.kind (inText text file) :=
      List.countP_pos_iff.2 ⟨p, hp, beq_self_eq_true _⟩
    exact ⟨p.kind, by rw [leftoverCount_eq_add p.kind text file]; omega⟩

private theorem issues_ne_nil_iff (f : ProcessedFile) (c : Constraints) :
    Completeness.rule.issues [f] c ≠ [] ↔ ∃ k, 0 < leftoverCount k f.content := by
  have hissues : Completeness.rule.issues [f] c = Completeness.fileIssues f := by
    rw [Completeness.rule, Rule.issues_perFile fun _ _ => rfl]
    exact List.flatMap_singleton _ _
  have hall (k : Kind) : k ∈ Kind.all := by cases k <;> decide
  rw [hissues, Completeness.fileIssues, Ne, List.filterMap_eq_nil_iff]
  simp [Completeness.leftover, hall, leftoverCount, List.length_pos_iff]

/-- Whether a text has leftovers, whether it has placeholders, whether a kind of form is counted in
it and whether its file is given a warning is all the same. Of each kind as many forms are counted
as there are placeholders of this kind and forms within the keys of `data` placeholders; and no
`data` form stands within a key. -/
theorem leftovers_agree (text file : String) :
    (hasLeftover text = true ↔ inText text file ≠ []) ∧
    (hasLeftover text = true ↔ ∃ k, 0 < leftoverCount k text) ∧
    (∀ (f : ProcessedFile) (c : Constraints),
      hasLeftover text = true ↔ Completeness.rule.issues [{ f with content := text }] c ≠ []) ∧
    leftoverCount .data text = kindCount .data (inText text file) ∧
    ∀ k, leftoverCount k text
      = kindCount k (inText text file) + keyCount k (inText text file) := by
  refine ⟨hasLeftover_iff_exists_count.trans exists_count_iff, hasLeftover_iff_exists_count,
    fun f c => ?_, ?_, fun k => leftoverCount_eq_add k text file⟩
  · exact hasLeftover_iff_exists_count.trans (issues_ne_nil_iff { f with content := text } c).symm
  · rw [leftoverCount_eq_add .data text file, keyCount_data, Nat.add_zero]

end Placeholder

end SiteTemplate
