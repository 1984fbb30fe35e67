import SiteTemplate.Proofs.Scanning
import SiteTemplate.Validation.CodeQuality

/-!
# The parts of an import statement

What is read as a named import starts with the blanks before the word `import` and goes on to the
end of the line on which its source stands. The statement itself ends before that where a semicolon
follows the source.
-/

namespace SiteTemplate

open Text

/-- A line starts behind a text. -/
def Text.StartsLine (passed : List Char) : Prop := passed.getLast?.any (· != '\n') = false

namespace NamedImport

variable {cs left names : List Char}

/-- The parts of what is read as a statement. -/
structure Parts where
  /-- The blanks before the word `import`. -/
  blanks : List Char
  /-- What stands between that word and the braces. -/
  lead : List Char
  /-- What stands between the braces. -/
  names : List Char
  /-- What stands between the braces and the word `from`. -/
  link : List Char
  /-- The blanks behind that word. -/
  gap : List Char
  /-- All that follows on the line. -/
  source : List Char

namespace Parts

/-- A statement up to its source. -/
def head (s : Parts) : List Char :=
  "import".toList ++ (s.lead ++ '\x7b' :: (s.names ++ '\x7d'
    :: (s.link ++ ("from".toList ++ s.gap))))

/-- The text of a statement: it ends with the first semicolon behind `from` or, without one, at the
end of its line. -/
def text (s : Parts) : List Char :=
  s.head ++ (s.source.takeWhile (· != ';') ++ (s.source.dropWhile (· != ';')).take 1)

/-- What follows the statement on its line. -/
def tail (s : Parts) : List Char := (s.source.dropWhile (· != ';')).drop 1

/-- All that is read. -/
def chars (s : Parts) : List Char := s.blanks ++ (s.head ++ s.source)

theorem chars_eq (s : Parts) : s.chars = s.blanks ++ (s.text ++ s.tail) := by
  rw [chars, text, tail, List.append_assoc s.head, List.append_assoc, List.take_append_drop,
    List.takeWhile_append_dropWhile]

theorem chars_ne_nil (s : Parts) : s.chars ≠ [] := by
  have hword : "import".toList ≠ [] := by decide
  have hhead : s.head ≠ [] := List.append_ne_nil_of_left_ne_nil hword _
  exact List.append_ne_nil_of_right_ne_nil _ (List.append_ne_nil_of_left_ne_nil hhead _)

/-- Blanks open a statement, and the braces hold what comes before the first that closes. -/
structure Proper (s : Parts) : Prop where
  blanks : ∀ c ∈ s.blanks, isBlank c = true
  lead : s.lead.head?.any isBlank = true ∧ ';' ∉ s.lead
  names : s.names ≠ [] ∧ '\x7d' ∉ s.names
  link : ∀ c ∈ s.link, endsPart c = false
  gap : s.gap ≠ [] ∧ ∀ c ∈ s.gap, isBlank c = true
  source : s.source ≠ [] ∧ '\n' ∉ s.source

end Parts

/-- What is read at the start of a line. -/
def readLine? (cs : List Char) : Option (List Char × List Char) := (afterOpening? cs).bind braced?

theorem statement_eq_some_iff {passed : List Char} {found : List Char × List Char} :
    statement passed.getLast? cs = some found ↔ StartsLine passed ∧ readLine? cs = some found := by
  rw [statement, Option.ite_none_left_eq_some, StartsLine, readLine?, Bool.not_eq_true]

/-- A source goes on to the end of its line. It has a character other than a blank, or nothing but
blanks follows it. -/
def EndsLine (source left : List Char) : Prop :=
  (source ≠ [] ∧ '\n' ∉ source) ∧ left.head?.any (· != '\n') = false
    ∧ ((∃ c ∈ source, isBlank c = false) ∨ trimStart left = [])

private theorem exists_append_lineEnds (cs : List Char) : ∃ taken,
    cs = taken ++ cs.reverse.takeWhile (· == '\n') ∧ taken.getLast?.any (· == '\n') = false
      ∧ ∀ c ∈ cs.reverse.takeWhile (· == '\n'), c = '\n' := by
  have hends : ∀ c ∈ cs.reverse.takeWhile (· == '\n'), c = '\n' :=
    fun c hc => by simpa using List.mem_takeWhile_imp hc
  have hreverse : (cs.reverse.takeWhile (· == '\n')).reverse
      = cs.reverse.takeWhile (· == '\n') := by
    rw [List.eq_replicate_of_mem hends, List.reverse_replicate]
  refine ⟨dropEndWhile (· == '\n') cs, ?_, getLast?_dropEndWhile _ cs, hends⟩
  rw [← hreverse, dropEndWhile, ← List.reverse_append, List.takeWhile_append_dropWhile,
    List.reverse_reverse]

theorem ne_lineEnd {c : Char} (hc : isBlank c = false) : c ≠ '\n' := by
  rintro rfl
  cases hc

private theorem endsLine_takeWhile {c : Char} (hc : isBlank c = false) (rest : List Char) :
    EndsLine ((c :: rest).takeWhile (· != '\n')) ((c :: rest).dropWhile (· != '\n')) := by
  have hsource : (c :: rest).takeWhile (· != '\n') = c :: rest.takeWhile (· != '\n') :=
    List.takeWhile_cons_of_pos (bne_iff_ne.2 (ne_lineEnd hc))
  refine ⟨⟨by simp [hsource], fun hmem => ?_⟩, ?_, .inl ⟨c, by simp [hsource], hc⟩⟩
  · simpa using List.mem_takeWhile_imp hmem
  · exact head?_dropWhile _ _

private theorem exists_endsLine_of_blanks (hblanks : ∀ c ∈ cs, isBlank c = true)
    (hlong : (cs.reverse.takeWhile (· == '\n')).length + 1 < cs.length) :
    ∃ gap source, cs = gap ++ (source ++ cs.reverse.takeWhile (· == '\n'))
      ∧ (gap ≠ [] ∧ ∀ c ∈ gap, isBlank c = true)
      ∧ EndsLine source (cs.reverse.takeWhile (· == '\n')) := by
  obtain ⟨taken, htaken, hlast, hends⟩ := exists_append_lineEnds cs
  have hsize := congrArg List.length htaken
  rw [List.length_append] at hsize
  rcases List.eq_nil_or_concat' taken with rfl | ⟨gap, c, rfl⟩
  · rw [List.length_nil] at hsize
    omega
  · rw [List.length_append, List.length_singleton] at hsize
    have hgap : ∀ d ∈ gap, isBlank d = true := by
      intro d hd
      exact hblanks d (by rw [htaken]; simp [hd])
    have hline : '\n' ≠ c := Ne.symm (by simpa using hlast)
    refine ⟨gap, [c], by rw [← List.append_assoc]; exact htaken,
      ⟨List.length_pos_iff.1 (by omega), hgap⟩, ⟨by simp, by simpa using hline⟩, ?_, .inr ?_⟩
    · cases hclosing : cs.reverse.takeWhile (· == '\n') with
      | nil => rfl
      | cons d closing => simp [hends d (by simp [hclosing])]
    · rw [trimStart, List.dropWhile_eq_nil_iff]
      intro d hd
      rw [hends d hd]
      rfl

private theorem exists_of_afterSource? (h : afterSource? cs = some left) :
    ∃ gap source, cs = gap ++ (source ++ left) ∧ (gap ≠ [] ∧ ∀ c ∈ gap, isBlank c = true)
      ∧ EndsLine source left := by
  obtain ⟨blanks, hblanks, hcs⟩ := exists_blanks_append_trimStart cs
  unfold afterSource? at h
  obtain ⟨hshort, h⟩ := Option.ite_none_left_eq_some.1 h
  split at h
  · next hrest =>
    obtain ⟨c, rest, hrest⟩ : ∃ c rest, trimStart cs = c :: rest :=
      List.exists_cons_of_ne_nil (by simpa using hrest)
    have hc : isBlank c = false := by simpa [hrest] using head?_trimStart cs
    have hne : blanks ≠ [] := by
      rintro rfl
      exact hshort (congrArg List.length hcs).symm
    rw [hrest] at h hcs
    obtain rfl := Option.some.inj h
    refine ⟨blanks, _, ?_, ⟨hne, hblanks⟩, endsLine_takeWhile hc rest⟩
    rw [List.takeWhile_append_dropWhile]
    exact hcs
  · next hrest =>
    obtain ⟨hlong, h⟩ := Option.ite_none_right_eq_some.1 h
    obtain rfl := Option.some.inj h
    have hnil : trimStart cs = [] := by simpa using hrest
    rw [hnil, List.append_nil] at hcs
    exact exists_endsLine_of_blanks (hcs ▸ hblanks) hlong

private theorem exists_of_afterNames? (h : afterNames? cs = some left) :
    ∃ link gap source, cs = link ++ ("from".toList ++ (gap ++ (source ++ left)))
      ∧ (∀ c ∈ link, endsPart c = false) ∧ (gap ≠ [] ∧ ∀ c ∈ gap, isBlank c = true)
      ∧ EndsLine source left := by
  induction cs with
  | nil => cases h
  | cons c cs ih =>
    rw [afterNames?] at h
    split at h
    · next hread =>
      obtain rfl := Option.some.inj h
      obtain ⟨rest, hfrom, hsource⟩ := Option.bind_eq_some_iff.1 hread
      obtain ⟨gap, source, rfl, hgap, hends⟩ := exists_of_afterSource? hsource
      exact ⟨[], gap, source, after?_eq_some_iff.1 hfrom, by simp, hgap, hends⟩
    · obtain ⟨hc, h⟩ := Option.ite_none_left_eq_some.1 h
      obtain ⟨link, gap, source, rfl, hlink, hrest⟩ := ih h
      exact ⟨c :: link, gap, source, rfl,
        List.forall_mem_cons.2 ⟨Bool.not_eq_true _ ▸ hc, hlink⟩, hrest⟩

private theorem exists_of_braced? (h : braced? cs = some (names, left)) :
    ∃ lead link gap source, cs = lead ++ '\x7b' :: (names ++ '\x7d' :: (link ++ ("from".toList
        ++ (gap ++ (source ++ left)))))
      ∧ (∀ c ∈ lead, endsPart c = false) ∧ (names ≠ [] ∧ '\x7d' ∉ names)
      ∧ (∀ c ∈ link, endsPart c = false) ∧ (gap ≠ [] ∧ ∀ c ∈ gap, isBlank c = true)
      ∧ EndsLine source left := by
  induction cs with
  | nil => cases h
  | cons c cs ih =>
    rw [braced?] at h
    split at h
    · next hread =>
      obtain ⟨hopen, hread⟩ := Option.ite_none_right_eq_some.1 hread
      obtain ⟨rest, hclose, hrest⟩ := Option.bind_eq_some_iff.1 hread
      obtain ⟨link, gap, source, rfl, hlink, hgap, hends⟩ := exists_of_afterNames? hrest
      obtain ⟨rfl, rfl⟩ := Prod.mk.inj (Option.some.inj h)
      obtain ⟨rfl, hnames⟩ : c = '\x7b' ∧ cs.takeWhile (· != '\x7d') ≠ [] := by simpa using hopen
      refine ⟨[], link, gap, source, ?_, by simp, ⟨hnames, ?_⟩, hlink, hgap, hends⟩
      · have hbehind : cs.dropWhile (· != '\x7d') = '\x7d' :: (link ++ ("from".toList
            ++ (gap ++ (source ++ _)))) := after?_eq_some_iff.1 hclose
        rw [← hbehind, List.takeWhile_append_dropWhile, List.nil_append]
      · exact fun hmem => by simpa using List.mem_takeWhile_imp hmem
    · obtain ⟨hc, h⟩ := Option.ite_none_left_eq_some.1 h
      obtain ⟨lead, link, gap, source, rfl, hlead, hrest⟩ := ih h
      exact ⟨c :: lead, link, gap, source, rfl,
        List.forall_mem_cons.2 ⟨Bool.not_eq_true _ ▸ hc, hlead⟩, hrest⟩

private theorem exists_of_afterOpening? {rest : List Char} (h : afterOpening? cs = some rest) :
    ∃ blanks lead, cs = blanks ++ ("import".toList ++ (lead ++ rest))
      ∧ (∀ c ∈ blanks, isBlank c = true) ∧ lead.head?.any isBlank = true ∧ ';' ∉ lead := by
  obtain ⟨blanks, hblanks, hcs⟩ := exists_blanks_append_trimStart cs
  simp only [afterOpening?, Option.bind_eq_bind, Option.bind_eq_some_iff, Option.some.injEq] at h
  obtain ⟨word, hword, behind, hbehind, hrest⟩ := h
  obtain ⟨run, hne, hrun, rfl⟩ := afterSome?_eq_some hbehind
  rw [after?_eq_some_iff.1 hword] at hcs
  have hfirst (more : List Char) : (run ++ more).head?.any isBlank = true := by
    cases run with
    | nil => exact absurd rfl hne
    | cons c run => simpa using hrun c List.mem_cons_self
  have hline {run : List Char} (h : ∀ c ∈ run, isBlank c = true) : ';' ∉ run := by
    intro hmem
    have hblank := h ';' hmem
    revert hblank
    decide
  cases hread : (after? "type" behind).bind (afterSome? isBlank) with
  | none =>
    obtain rfl : behind = rest := by simpa [hread] using hrest
    exact ⟨blanks, run, hcs, hblanks, by simpa using hfirst [], hline hrun⟩
  | some body =>
    obtain rfl : body = rest := by simpa [hread] using hrest
    obtain ⟨typed, htype, hbody⟩ := Option.bind_eq_some_iff.1 hread
    obtain ⟨run', -, hrun', rfl⟩ := afterSome?_eq_some hbody
    refine ⟨blanks, run ++ ("type".toList ++ run'), ?_, hblanks, hfirst _, ?_⟩
    · rw [hcs, after?_eq_some_iff.1 htype]
      simp only [List.append_assoc]
    · simp [hline hrun, hline hrun']

/-- What is read at the start of a line are the parts of a statement. -/
theorem exists_parts (h : readLine? cs = some (names, left)) :
    ∃ s : Parts, s.Proper ∧ s.names = names ∧ cs = s.chars ++ left ∧ EndsLine s.source left := by
  obtain ⟨rest, hrest, hnames⟩ := Option.bind_eq_some_iff.1 h
  obtain ⟨blanks, lead, rfl, hblanks, hfirst, hlead⟩ := exists_of_afterOpening? hrest
  obtain ⟨more, link, gap, source, rfl, hmore, hbraces, hlink, hgap, hends⟩ :=
    exists_of_braced? hnames
  refine ⟨⟨blanks, lead ++ more, names, link, gap, source⟩,
    ⟨hblanks, ⟨?_, ?_⟩, hbraces, hlink, hgap, hends.1⟩, rfl, ?_, hends⟩
  · cases lead with
    | nil => cases hfirst
    | cons c lead => exact hfirst
  · have hsemicolon : ';' ∉ more := fun h => absurd (hmore ';' h) (by decide)
    simp [hlead, hsemicolon]
  · unfold Parts.chars Parts.head
    generalize "import".toList = opening, "from".toList = joining
    simp only [List.append_assoc, List.cons_append]

theorem statement_consumes : statement.Consumes := by
  intro before cs names left h
  obtain ⟨-, h⟩ := Option.ite_none_left_eq_some.1 h
  obtain ⟨s, -, -, hcs, -⟩ := exists_parts h
  exact ⟨s.chars, s.chars_ne_nil, hcs⟩

end NamedImport

end SiteTemplate
