import SiteTemplate.Proofs.RunningMarkup
import SiteTemplate.Proofs.Scanning

/-!
# Between tags and inside a tag

A state of reading stands between two tags, with its open elements and nothing else that counts, or
inside a tag, with what has been read of it since its `<`. Text without brackets keeps a state where
it is, `<` leads into a tag and `>` out of it. The tag around a place is the innermost open element
in the one case and the tag itself in the other.
-/

namespace SiteTemplate.Markup

open Text

theorem not_mem_of_isBracket {cs : List Char} (h : ∀ c ∈ cs, isBracket c = false) :
    '<' ∉ cs ∧ '>' ∉ cs :=
  ⟨fun hm => absurd (h _ hm) (by decide), fun hm => absurd (h _ hm) (by decide)⟩

theorem lastBracket?_eq_none {cs : List Char} (h : ∀ c ∈ cs, isBracket c = false) :
    lastBracket? cs = none := by
  induction cs with
  | nil => rfl
  | cons c cs ih =>
    rw [List.forall_mem_cons] at h
    simp [lastBracket?, ih h.2, h.1]

theorem tagsOf_unfinished {body : List Char} (h : ∀ c ∈ body, isBracket c = false) :
    tagsOf ('<' :: body) = [] ∧ pendingOf ('<' :: body) = '<' :: body := by
  obtain ⟨hopen, hclose⟩ := not_mem_of_isBracket h
  have hread : Tag.read? ('<' :: body) = none := by
    by_contra hsome
    obtain ⟨⟨t, left⟩, ht⟩ := Option.ne_none_iff_exists'.1 hsome
    obtain ⟨inner, -, -, heq⟩ := Tag.read?_eq_some_iff.1 ht
    exact hclose (by rw [(List.cons.inj heq).2]; simp)
  exact tagsOf_of_not_read hread hopen

private theorem tagsOf_finished {body : List Char} {t : Tag} (h : ∀ c ∈ body, isBracket c = false)
    (ht : Tag.ofBody? body = some t) :
    tagsOf ('<' :: (body ++ ['>'])) = [t] ∧ pendingOf ('<' :: (body ++ ['>'])) = [] := by
  obtain ⟨htags, hpending⟩ := tagsOf_of_read? (Tag.read?_eq_some_iff.2 ⟨body, h, ht, rfl⟩)
  rw [htags, hpending, tagsOf_nil, pendingOf_nil]
  exact ⟨rfl, rfl⟩

namespace State

/-- A state between two tags, within the given elements. -/
structure Between (s : State) (stack : List Element) : Prop where
  reachable : s.Reachable
  stack_eq : s.stack = stack
  pending_eq : s.pending = []
  openTag_eq : s.openTag = none

/-- A state inside a tag of which the given text has been read. -/
structure InTag (s : State) (stack : List Element) (body : List Char) : Prop where
  reachable : s.Reachable
  stack_eq : s.stack = stack
  pending_eq : s.pending = '<' :: body
  openTag_eq : s.openTag = some body
  plain : ∀ c ∈ body, isBracket c = false

theorem between_start : Between {} [] := ⟨.start, rfl, rfl, rfl⟩

variable {s : State} {stack : List Element} {body cs : List Char} {file : String}

theorem Between.feed_text (h : s.Between stack) (hcs : ∀ c ∈ cs, isBracket c = false) :
    (s.feed cs).Between stack := by
  cases cs with
  | nil => exact h
  | cons c cs =>
    obtain ⟨htags, hpending⟩ := tagsOf_of_not_mem (not_mem_of_isBracket hcs).1
    refine ⟨h.reachable.feed _, ?_, ?_, ?_⟩
    · rw [feed_cons, h.pending_eq, List.nil_append, htags]
      exact h.stack_eq
    · rw [feed_cons, h.pending_eq, List.nil_append, hpending]
    · simp [feed_cons, openTagAfter, lastBracket?_eq_none hcs, h.openTag_eq]

theorem Between.feed_tag (h : s.Between stack) (hbody : ∀ c ∈ body, isBracket c = false) :
    (s.feed ('<' :: body)).InTag stack body := by
  obtain ⟨htags, hpending⟩ := tagsOf_unfinished hbody
  refine ⟨h.reachable.feed _, ?_, ?_, ?_, hbody⟩
  · rw [feed_cons, h.pending_eq, List.nil_append, htags]
    exact h.stack_eq
  · rw [feed_cons, h.pending_eq, List.nil_append, hpending]
  · have hlast : lastBracket? ('<' :: body) = some ('<', body) := by
      rw [lastBracket?, lastBracket?_eq_none hbody]
      rfl
    rw [feed_cons, openTagAfter, hlast]
    rfl

theorem InTag.feed_text (h : s.InTag stack body) (hcs : ∀ c ∈ cs, isBracket c = false) :
    (s.feed cs).InTag stack (body ++ cs) := by
  have hplain : ∀ c ∈ body ++ cs, isBracket c = false :=
    List.forall_mem_append.2 ⟨h.plain, hcs⟩
  cases cs with
  | nil => simpa using h
  | cons c cs =>
    obtain ⟨htags, hpending⟩ := tagsOf_unfinished hplain
    refine ⟨h.reachable.feed _, ?_, ?_, ?_, hplain⟩
    · rw [feed_cons, h.pending_eq, List.cons_append, htags]
      exact h.stack_eq
    · rw [feed_cons, h.pending_eq, List.cons_append, hpending]
    · simp [feed_cons, openTagAfter, lastBracket?_eq_none hcs, h.openTag_eq]

theorem InTag.feed_close {t : Tag} (h : s.InTag stack body) (ht : Tag.ofBody? body = some t) :
    (s.feed ['>']).Between (afterTag stack t) := by
  obtain ⟨htags, hpending⟩ := tagsOf_finished h.plain ht
  refine ⟨h.reachable.feed _, ?_, ?_, rfl⟩
  · rw [feed_cons, h.pending_eq, List.cons_append, htags, h.stack_eq]
    rfl
  · rw [feed_cons, h.pending_eq, List.cons_append, hpending]

theorem Between.tagName_context (h : s.Between stack) :
    (s.context file).tagName = stack.head?.map Element.name := by
  rw [context, h.openTag_eq, h.stack_eq]
  cases stack <;> rfl

theorem InTag.tagName_context {name : String} {rest : List Char} (h : s.InTag stack body)
    (hname : readName (trimStart body) = some (name, rest)) :
    (s.context file).tagName = some name := by
  simp only [context, h.openTag_eq, hname]

end State

/-- A name that a tag can have. -/
def IsTagName (name : List Char) : Prop :=
  ∃ c cs, name = c :: cs ∧ isAsciiLetter c = true ∧ ∀ x ∈ cs, isNameChar x = true

theorem isNameChar_of_isAsciiLetter {c : Char} (h : isAsciiLetter c = true) :
    isNameChar c = true := by
  simp [isNameChar, isWordChar_of_isAsciiLetter h]

theorem isNameChar_of_isBlank {c : Char} (h : isBlank c = true) : isNameChar c = false := by
  have hnames : ∀ n ∈ blankCodes, (!isNameChar (Char.ofNat n)) = true := by decide +kernel
  simpa using forall_isBlank (p := fun c => !isNameChar c) hnames h

theorem isNameChar_head?_append {cs rest : List Char} (hcs : ∀ c ∈ cs.head?, isNameChar c = false)
    (hrest : rest.head?.any isNameChar = false) : (cs ++ rest).head?.any isNameChar = false := by
  cases cs with
  | nil => exact hrest
  | cons c cs => simpa using hcs c rfl

private theorem isBracket_of_isNameChar {c : Char} (h : isNameChar c = true) :
    isBracket c = false := by
  by_contra hbracket
  simp only [isBracket, Bool.not_eq_false, Bool.or_eq_true, beq_iff_eq] at hbracket
  rcases hbracket with rfl | rfl
  · exact absurd h (by decide)
  · exact absurd h (by decide)

namespace IsTagName

variable {name rest : List Char}

theorem isNameChar_of_mem (h : IsTagName name) : ∀ c ∈ name, isNameChar c = true := by
  obtain ⟨c, cs, rfl, hc, hcs⟩ := h
  exact List.forall_mem_cons.2 ⟨isNameChar_of_isAsciiLetter hc, hcs⟩

theorem isBracket_of_mem (h : IsTagName name) : ∀ c ∈ name, isBracket c = false :=
  fun c hc => isBracket_of_isNameChar (h.isNameChar_of_mem c hc)

theorem ne_of_mem (h : IsTagName name) : ∀ c ∈ name, c ≠ '<' ∧ c ≠ '\x7b' := by
  intro c hc
  have hchar := h.isNameChar_of_mem c hc
  constructor
  · rintro rfl
    exact absurd hchar (by decide)
  · rintro rfl
    exact absurd hchar (by decide)

theorem readName_append (h : IsTagName name) (hrest : rest.head?.any isNameChar = false) :
    readName (name ++ rest) = some (lowered (.ofList name), rest) := by
  obtain ⟨c, cs, rfl, hc, hcs⟩ := h
  rw [List.cons_append, readName, if_pos hc, takeWhile_append_of_stop hcs hrest,
    dropWhile_append_of_stop hcs hrest]

theorem trimStart_append (h : IsTagName name) (rest : List Char) :
    trimStart (name ++ rest) = name ++ rest := by
  obtain ⟨c, cs, rfl, hc, hcs⟩ := h
  refine dropWhile_eq_self ?_
  by_contra hblank
  have hname := isNameChar_of_isBlank (c := c) (by simpa using hblank)
  rw [isNameChar_of_isAsciiLetter hc] at hname
  cases hname

theorem head?_append_ne_slash (h : IsTagName name) (rest : List Char) :
    ((name ++ rest).head? == some '/') = false := by
  obtain ⟨c, cs, rfl, hc, -⟩ := h
  have hne : c ≠ '/' := by
    rintro rfl
    exact absurd hc (by decide)
  simpa using hne

end IsTagName

end SiteTemplate.Markup
