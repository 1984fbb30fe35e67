import SiteTemplate.Proofs.ImportStatements
import SiteTemplate.Validation.CodeQuality

/-!
# Lines of unused imports

An import statement takes the blanks before it with it, also over several lines, and a scan of a
script finds it at the start of the first line from which only blanks lead to it. An unused import
is therefore reported on the first of the blank lines directly above its statement, and on the line
of the statement itself exactly if there are none.
-/

namespace SiteTemplate

open Text

namespace Text

variable {cs : List Char}

/-- No line starts among the blanks at the end of a text. -/
def NoEarlierStart (passed : List Char) : Prop :=
  ∀ start blanks, passed = start ++ blanks → blanks ≠ [] → (∀ c ∈ blanks, isBlank c = true) →
    ¬ StartsLine start

/-- The number of blank lines directly above the line on which an offset lies. -/
def blankLinesAbove (content : List Char) (offset : Nat) : Nat :=
  (((content.take offset).splitOn '\n').dropLast.reverse.takeWhile (·.all isBlank)).length

private theorem length_splitOn (cs : List Char) : (cs.splitOn '\n').length = newlines cs + 1 := by
  induction cs with
  | nil => rfl
  | cons c cs ih =>
    rw [List.splitOn_cons_eq_if_modifyHead, newlines, List.count_cons]
    split
    · next hc => simp [ih, newlines]
    · next hc => simp [ih, newlines]

private theorem all_isBlank_of_mem_splitOn (h : ∀ c ∈ cs, isBlank c = true) :
    ∀ line ∈ cs.splitOn '\n', line.all isBlank = true := by
  induction cs with
  | nil => simp
  | cons c cs ih =>
    rw [List.forall_mem_cons] at h
    have hmore := ih h.2
    rw [List.splitOn_cons_eq_if_modifyHead]
    split
    · simpa using hmore
    · cases hlines : cs.splitOn '\n' with
      | nil => simp
      | cons line lines =>
        rw [hlines, List.forall_mem_cons] at hmore
        rw [List.modifyHead_cons, List.forall_mem_cons, List.all_cons, h.1, Bool.true_and]
        exact hmore

private theorem exists_lastLine (cs : List Char) : ∃ start line lines,
    cs = start ++ line ∧ StartsLine start ∧ cs.splitOn '\n' = lines ++ [line] := by
  have hcs : cs.rdropWhile (· != '\n') ++ cs.rtakeWhile (· != '\n') = cs :=
    List.rdropWhile_append_rtakeWhile
  have hline : '\n' ∉ cs.rtakeWhile (· != '\n') :=
    fun h => by simpa using List.mem_rtakeWhile_imp h
  rcases List.eq_nil_or_concat' (cs.rdropWhile (· != '\n')) with hnil | ⟨text, c, htext⟩
  · rw [hnil, List.nil_append] at hcs
    rw [hcs] at hline
    exact ⟨[], cs, [], rfl, rfl, List.splitOn_eq_singleton hline⟩
  · have hlast := List.rdropWhile_last_not (· != '\n') cs (by simp [htext])
    obtain rfl : c = '\n' := by simpa [htext] using hlast
    refine ⟨text ++ ['\n'], _, text.splitOn '\n', by rw [← htext, hcs], ?_, ?_⟩
    · simp [StartsLine]
    · conv_lhs => rw [← hcs, htext, List.append_assoc, List.singleton_append]
      rw [List.splitOn_append_cons_self, List.splitOn_eq_singleton hline]

/-- Of the blanks between the start of a line and a place, all line ends make blank lines directly
above the place, and no other blank lines stand there if none ends where the blanks start. -/
theorem blankLinesAbove_append {passed blanks : List Char} (rest : List Char)
    (hstart : StartsLine passed) (hfirst : NoEarlierStart passed)
    (hblanks : ∀ c ∈ blanks, isBlank c = true) :
    blankLinesAbove (passed ++ (blanks ++ rest)) (passed.length + blanks.length)
      = newlines blanks := by
  have htake : (passed ++ (blanks ++ rest)).take (passed.length + blanks.length)
      = passed ++ blanks := by
    rw [← List.append_assoc, ← List.length_append, List.take_left]
  have hlines : ∀ line ∈ (blanks.splitOn '\n').dropLast.reverse, line.all isBlank = true := by
    intro line hline
    exact all_isBlank_of_mem_splitOn hblanks line
      ((List.dropLast_subset _) (List.mem_reverse.1 hline))
  have hlength : (blanks.splitOn '\n').dropLast.length = newlines blanks := by
    rw [List.length_dropLast, length_splitOn, Nat.add_sub_cancel]
  rw [blankLinesAbove, htake]
  rcases List.eq_nil_or_concat' passed with rfl | ⟨text, c, rfl⟩
  · rw [List.nil_append, List.takeWhile_eq_self_iff.2 hlines, List.length_reverse, hlength]
  · have hc : c = '\n' := by simpa [StartsLine] using hstart
    subst hc
    obtain ⟨start, line, lines, rfl, hline, hsplit⟩ := exists_lastLine text
    have hstop : line.all isBlank = false := by
      rw [← Bool.not_eq_true]
      intro hblank
      exact hfirst start (line ++ ['\n']) (List.append_assoc _ _ _) (by simp)
        (List.forall_mem_append.2 ⟨List.all_eq_true.1 hblank, by decide⟩) hline
    rw [List.append_assoc, List.singleton_append, List.splitOn_append_cons_self, hsplit,
      List.dropLast_append_of_ne_nil (List.splitOn_ne_nil _ _), List.reverse_append,
      List.takeWhile_append_of_pos hlines]
    simp [hstop, hlength]

end Text

namespace NamedImport

variable {cs left names : List Char}

theorem readLine?_blank_cons {c : Char} (hc : isBlank c = true) (cs : List Char) :
    readLine? (c :: cs) = readLine? cs := by
  rw [readLine?, readLine?, afterOpening?, afterOpening?, trimStart, trimStart,
    List.dropWhile_cons_of_pos hc]

private theorem readLine?_append {blanks : List Char} (h : ∀ c ∈ blanks, isBlank c = true) :
    readLine? (blanks ++ cs) = readLine? cs := by
  induction blanks with
  | nil => rfl
  | cons c blanks ih =>
    rw [List.forall_mem_cons] at h
    rw [List.cons_append, readLine?_blank_cons h.1, ih h.2]

/-- A statement ends on a line on which it has a character other than a blank, or nothing but blanks
follows it. -/
def EndsOnLine (taken left : List Char) : Prop :=
  trimStart left = [] ∨ ∃ text c tail, taken = text ++ c :: tail ∧ isBlank c = false ∧ '\n' ∉ tail

private theorem exists_of_readLine? (h : readLine? cs = some (names, left)) :
    ∃ taken, cs = taken ++ left ∧ EndsOnLine taken left := by
  obtain ⟨s, hs, -, hcs, -, -, hends⟩ := exists_parts h
  refine ⟨s.chars, hcs, ?_⟩
  rcases hends with ⟨c, hmem, hc⟩ | hleft
  · obtain ⟨text, tail, hsource⟩ := List.append_of_mem hmem
    have hline := hs.source.2
    rw [hsource] at hline
    refine .inr ⟨s.blanks ++ (s.head ++ text), c, tail, ?_, hc, fun htail => ?_⟩
    · simp only [Parts.chars, hsource, List.append_assoc]
    · exact hline (by simp [htail])
  · exact .inl hleft

/-- No line starts among the blanks before a place where a statement can be read. -/
def IsFirst (passed rest : List Char) : Prop :=
  (readLine? rest).isSome = true → NoEarlierStart passed

private theorem isFirst_nil (cs : List Char) : IsFirst [] cs := by
  intro _ start blanks hnil hne
  exact absurd (List.append_eq_nil_iff.1 hnil.symm).2 hne

theorem IsFirst.skip {passed rest : List Char} {c : Char} (h : IsFirst passed (c :: rest))
    (hnone : statement passed.getLast? (c :: rest) = none) : IsFirst (passed ++ [c]) rest := by
  intro hread start blanks hpassed hne hblanks hstart
  obtain ⟨more, d, rfl⟩ := List.eq_nil_or_concat' blanks |>.resolve_left hne
  rw [← List.append_assoc] at hpassed
  obtain ⟨rfl, hd⟩ := List.append_inj' hpassed rfl
  obtain rfl := List.cons.inj hd |>.1
  have hc : isBlank c = true := hblanks c (by simp)
  rw [← readLine?_blank_cons hc] at hread
  cases more with
  | nil =>
    -- The line would have been read here.
    obtain ⟨found, hfound⟩ := Option.isSome_iff_exists.1 hread
    rw [List.append_nil] at hnone
    rw [statement_eq_some_iff.2 ⟨hstart, hfound⟩] at hnone
    cases hnone
  | cons e more =>
    exact h hread start _ rfl (List.cons_ne_nil _ _)
      (fun x hx => hblanks x (List.mem_append_left _ hx)) hstart

theorem IsFirst.take {passed taken : List Char} (h : EndsOnLine taken left) :
    IsFirst (passed ++ taken) left := by
  intro hread start blanks hpassed hne hblanks hstart
  rcases h with hleft | ⟨text, c, tail, rfl, hc, htail⟩
  · obtain ⟨found, hfound⟩ := Option.isSome_iff_exists.1 hread
    obtain ⟨rest, hrest, -⟩ := Option.bind_eq_some_iff.1 hfound
    rw [afterOpening?, hleft] at hrest
    cases hrest
  · -- The blanks do not reach back to the character that is none, which is on the last line.
    have hmem : c ∉ blanks := by
      intro hmem
      rw [hblanks c hmem] at hc
      cases hc
    rw [← List.append_assoc] at hpassed
    obtain ⟨more, rfl, rfl⟩ := exists_cons_of_not_mem hpassed hmem
    have hends : '\n' ∉ c :: more := by
      simp only [List.mem_append, not_or] at htail
      simp [(ne_lineEnd hc).symm, htail.1]
    have hlast := List.getLast_mem (List.cons_ne_nil c more)
    rw [StartsLine, List.getLast?_append_cons, List.getLast?_eq_some_getLast (List.cons_ne_nil _ _),
      Option.any_some, bne_eq_false_iff_eq] at hstart
    rw [hstart] at hlast
    exact hends hlast

/-- The offset of the word that opens the statement which is read at an offset. -/
def keywordAt (content : List Char) (offset : Nat) : Nat :=
  offset + ((content.drop offset).takeWhile isBlank).length

/-- At an offset the word stands that opens a statement with these names between its braces. -/
def OpensAt (content : List Char) (offset : Nat) (names : List Char) : Prop :=
  "import".toList <+: content.drop offset
    ∧ ∃ left, readLine? (content.drop offset) = some (names, left)

private theorem exists_of_mem_unused {content : List Char} {i : Found (List Char)}
    (h : i ∈ unused content) :
    ∃ s ∈ statement.all content, s.offset = i.offset ∧ i.value ∈ namesIn s.value := by
  obtain ⟨s, hs, hi⟩ := List.mem_flatMap.1 (List.mem_filter.1 h).1
  obtain ⟨name, hname, rfl⟩ := List.mem_map.1 hi
  exact ⟨s, hs, rfl, hname⟩

private theorem exists_of_mem_all {content : List Char} {s : Found (List Char)}
    (h : s ∈ statement.all content) : ∃ passed rest, content = passed ++ rest
      ∧ passed.length = s.offset ∧ StartsLine passed ∧ IsFirst passed rest
      ∧ ∃ left, readLine? rest = some (s.value, left) := by
  have htake : ∀ passed taken left names, IsFirst passed (taken ++ left) →
      statement passed.getLast? (taken ++ left) = some (names, left) →
      IsFirst (passed ++ taken) left := by
    intro passed taken left names _ hread
    obtain ⟨taken', hsame, hends⟩ := exists_of_readLine? (statement_eq_some_iff.1 hread).2
    rw [List.append_cancel_right hsame]
    exact IsFirst.take hends
  obtain ⟨passed, rest, left, hcs, hoffset, hread, hfirst⟩ :=
    Recogniser.exists_of_mem_allFrom statement_consumes (fun _ _ _ => IsFirst.skip) htake
      (isFirst_nil content) h
  obtain ⟨hstart, hread⟩ := statement_eq_some_iff.1 hread
  exact ⟨passed, rest, hcs, hoffset, hstart, hfirst, left, hread⟩

/-- Behind blanks a line that can be read starts with the word `import`, from which it can be read
as well. -/
theorem exists_word_of_readLine? (h : readLine? cs = some (names, left)) :
    ∃ blanks more, cs = blanks ++ ("import".toList ++ more) ∧ (∀ c ∈ blanks, isBlank c = true)
      ∧ readLine? ("import".toList ++ more) = some (names, left) := by
  obtain ⟨blanks, hblanks, hcs⟩ := exists_blanks_append_trimStart cs
  obtain ⟨rest, hrest, -⟩ := Option.bind_eq_some_iff.1 h
  obtain ⟨more, hmore, -⟩ := Option.bind_eq_some_iff.1 hrest
  rw [after?_eq_some_iff.1 hmore] at hcs
  rw [hcs, readLine?_append hblanks] at h
  exact ⟨blanks, more, hcs, hblanks, h⟩

/-- An unused import is reported on the first of the blank lines that stand directly above its
statement, and on the line of the word `import` itself if there are none. -/
theorem unused_line (f : ProcessedFile) {i : Found (List Char)}
    (h : i ∈ unused f.content.toList) :
    ∃ (line : Nat) (names : List Char), (CodeQuality.unusedImport f i).line = some (line : Int)
      ∧ OpensAt f.content.toList (keywordAt f.content.toList i.offset) names
      ∧ i.value ∈ namesIn names
      ∧ line + blankLinesAbove f.content.toList (keywordAt f.content.toList i.offset)
        = lineAt f.content.toList (keywordAt f.content.toList i.offset) := by
  obtain ⟨s, hs, hoffset, hname⟩ := exists_of_mem_unused h
  obtain ⟨passed, rest, hcs, hpassed, hstart, hfirst, left, hread⟩ := exists_of_mem_all hs
  have hlines := hfirst (Option.isSome_of_eq_some hread)
  obtain ⟨blanks, more, rfl, hblanks, hword⟩ := exists_word_of_readLine? hread
  have hstop : ("import".toList ++ more).head?.any isBlank = false := rfl
  have hkeyword : keywordAt f.content.toList i.offset = passed.length + blanks.length := by
    rw [keywordAt, ← hoffset, ← hpassed, hcs, List.drop_left,
      takeWhile_append_of_stop hblanks hstop]
  have hdrop : f.content.toList.drop (keywordAt f.content.toList i.offset)
      = "import".toList ++ more := by
    rw [hkeyword, hcs, ← List.append_assoc, ← List.length_append, List.drop_left]
  refine ⟨_, s.value, rfl, ?_, hname, ?_⟩
  · rw [OpensAt, hdrop]
    exact ⟨List.prefix_append _ _, left, hword⟩
  · rw [hkeyword, ← hoffset, ← hpassed, hcs, blankLinesAbove_append _ hstart hlines hblanks]
    have hline := lineAt_append passed (blanks ++ ("import".toList ++ more)) 0
    have hword := lineAt_append blanks ("import".toList ++ more) 0
    rw [Nat.add_zero, lineAt_zero] at hline hword
    rw [lineAt_append, hline, hword]
    omega

deriving instance DecidableEq for Found

/-- A script. -/
def script (content : String) : ProcessedFile :=
  { path := "main.ts", content, type := "code", size := content.utf8ByteSize }

/-- A script with an import on its second line. -/
def renamed : ProcessedFile := script "// names\nimport { one as first } from 'x';\n"

/-- An import below other text is reported on the line of its word. -/
theorem unused_line_renamed : ⟨9, "first".toList⟩ ∈ unused renamed.content.toList
    ∧ blankLinesAbove renamed.content.toList 9 = 0
    ∧ (CodeQuality.unusedImport renamed ⟨9, "first".toList⟩).line
      = some (lineAt renamed.content.toList 9 : Int) := by
  have hmem : ⟨9, "first".toList⟩ ∈ unused renamed.content.toList := by decide +kernel
  have hkeyword : keywordAt renamed.content.toList 9 = 9 := by decide
  have habove : blankLinesAbove renamed.content.toList 9 = 0 := by decide
  obtain ⟨line, names, hline, -, -, hlines⟩ := unused_line renamed hmem
  rw [hkeyword, habove, Nat.add_zero] at hlines
  rw [hline, hlines]
  exact ⟨hmem, habove, rfl⟩

/-- A script with an import below a blank line. -/
def spaced : ProcessedFile := script "\nimport { a } from 'x';\n"

/-- An import below a blank line is reported on the blank line, not on its own. -/
theorem not_unused_line_spaced : ⟨0, ['a']⟩ ∈ unused spaced.content.toList
    ∧ OpensAt spaced.content.toList 1 " a ".toList ∧ ['a'] ∈ namesIn " a ".toList
    ∧ (CodeQuality.unusedImport spaced ⟨0, ['a']⟩).line
      ≠ some (lineAt spaced.content.toList 1 : Int) := by
  exact ⟨by decide +kernel, ⟨by decide, ['\n'], by decide⟩, by decide, by decide⟩

end NamedImport

end SiteTemplate
