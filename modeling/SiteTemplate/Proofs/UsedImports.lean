import SiteTemplate.Proofs.ImportLines
import SiteTemplate.Proofs.ScanSteps

/-!
# Uses of imported names

Whether an imported name is used is looked up in what is left of a script once its import statements
are taken out. What is taken out goes on to the end of the line, so that a use of the name behind
the semicolon that ends a statement is taken out with it. All other uses outside the statements are
found.
-/

namespace SiteTemplate

open Text

namespace NamedImport

variable {content name : List Char} {offset k : Nat} {s : Parts}

/-- A name stands at an offset as a whole identifier. -/
def UsedAt (content name : List Char) (offset : Nat) : Prop :=
  ∃ before behind, content = before ++ (name ++ behind) ∧ before.length = offset
    ∧ before.getLast?.any isIdentifierChar = false ∧ behind.head?.any isIdentifierChar = false

/-- A scan of a script reads a statement with these parts at an offset. -/
structure ReadAt (content : List Char) (offset : Nat) (s : Parts) : Prop where
  proper : s.Proper
  mem_all : ⟨offset, s.names⟩ ∈ statement.all content
  read : ∃ left, content.drop offset = s.chars ++ left
    ∧ statement (content.take offset).getLast? (s.chars ++ left) = some (s.names, left)

/-- The characters from one offset to another meet the text of a statement. -/
def MeetsStatement (content : List Char) (first last : Nat) : Prop :=
  ∃ offset s, ReadAt content offset s ∧ offset + s.blanks.length < last
    ∧ first < offset + s.blanks.length + s.text.length

/-- An offset lies behind the semicolon that ends a statement, on the same line. -/
def BehindStatement (content : List Char) (k : Nat) : Prop :=
  ∃ offset s, ReadAt content offset s ∧ s.text.getLast? = some ';'
    ∧ offset + s.blanks.length + s.text.length ≤ k ∧ k < offset + s.chars.length

private theorem Parts.getLast?_text (h : s.tail ≠ []) : s.text.getLast? = some ';' := by
  cases hrest : s.source.dropWhile (· != ';') with
  | nil => exact absurd (by rw [Parts.tail, hrest]; rfl) h
  | cons c rest =>
    have hhead := head?_dropWhile (· != ';') s.source
    obtain rfl : c = ';' := by simpa [hrest] using hhead
    rw [Parts.text, hrest]
    simp

private theorem Parts.Proper.eq_nil_of_semicolon (hs : s.Proper) (hnames : ';' ∉ s.names)
    {text more : List Char} (h : s.blanks ++ s.text = text ++ ';' :: more) : more = [] := by
  have hblank {cs : List Char} (hcs : ∀ c ∈ cs, isBlank c = true) : ';' ∉ cs :=
    fun hmem => absurd (hcs ';' hmem) (by decide)
  have hlink : ';' ∉ s.link := fun hmem => absurd (hs.link ';' hmem) (by decide)
  have hsource : ';' ∉ s.source.takeWhile (· != ';') :=
    fun hmem => by simpa using List.mem_takeWhile_imp hmem
  have hhead : ';' ∉ s.head := by
    have hwords : ';' ∉ "import".toList ∧ ';' ∉ "from".toList := by decide
    unfold Parts.head
    generalize "import".toList = opening, "from".toList = joining at hwords ⊢
    simp [hwords, hs.lead.2, hnames, hlink, hblank hs.gap.2]
  rw [Parts.text, ← List.append_assoc, ← List.append_assoc] at h
  obtain ⟨between, -, hend⟩ := exists_append_of_not_mem h.symm
    (by simp [hblank hs.blanks, hhead, hsource])
  have hlength := congrArg List.length hend
  rw [List.length_take, List.length_append, List.length_cons] at hlength
  exact List.eq_nil_of_length_eq_zero (by omega)

theorem Parts.length_chars (s : Parts) :
    s.chars.length = s.blanks.length + s.text.length + s.tail.length := by
  rw [Parts.chars_eq, List.length_append, List.length_append, Nat.add_assoc]

private theorem exists_readAt_of_takes {start taken left names : List Char}
    (h : statement.Takes content start taken left names) :
    ∃ s, ReadAt content start.length s ∧ s.chars = taken := by
  obtain ⟨s, hs, rfl, htaken, -⟩ := exists_parts (statement_eq_some_iff.1 h.2.2).2
  obtain rfl := List.append_cancel_right htaken
  refine ⟨s, ⟨hs, h.mem_all, left, ?_, ?_⟩, rfl⟩
  · rw [h.eq_append, List.drop_left]
  · rw [h.eq_append, List.take_left]
    exact h.2.2

/-- In a script in which only its start is read, the parts are those of the text that is read
there. -/
theorem ReadAt.eq_append_of_all {names left : List Char} (h : ReadAt content offset s)
    (hall : statement.all content = [⟨0, names⟩])
    (hread : statement none content = some (names, left)) :
    offset = 0 ∧ s.names = names ∧ content = s.chars ++ left := by
  have hmem := h.mem_all
  rw [hall, List.mem_singleton, Found.mk.injEq] at hmem
  obtain ⟨rfl, hnames⟩ := hmem
  obtain ⟨left', hdrop, hstatement⟩ := h.read
  rw [List.drop_zero] at hdrop
  rw [← hdrop] at hstatement
  obtain ⟨-, rfl⟩ := Prod.mk.inj (Option.some.inj (hread.symm.trans hstatement))
  exact ⟨rfl, hnames, hdrop⟩

private theorem getLast?_localName (item : List Char) :
    (localName item).getLast?.any isBlank = false := by
  have hgetD (found : Option (List Char)) {rest : List Char}
      (h : rest.getLast?.any isBlank = false) :
      ((found.map trim).getD rest).getLast?.any isBlank = false := by
    cases found with
    | none => exact h
    | some found => exact getLast?_trim found
  exact hgetD _ (hgetD _ (getLast?_trim item))

theorem exists_concat_of_mem_all {i : Found (List Char)} (h : i ∈ all content) :
    ∃ start c, i.value = start ++ [c] ∧ isBlank c = false := by
  obtain ⟨s, -, hi⟩ := List.mem_flatMap.1 h
  obtain ⟨name, hname, rfl⟩ := List.mem_map.1 hi
  obtain ⟨hitem, hne⟩ := List.mem_filter.1 hname
  obtain ⟨item, -, rfl⟩ := List.mem_map.1 hitem
  have hlast := getLast?_localName item
  rcases List.eq_nil_or_concat' (localName item) with hnil | ⟨start, c, hconcat⟩
  · simp [hnil] at hne
  · exact ⟨start, c, hconcat, by simpa [hconcat] using hlast⟩

theorem isSome_whole {before : Option Char} {cs : List Char} :
    (whole name before cs).isSome = true ↔ ∃ behind, cs = name ++ behind
      ∧ before.any isIdentifierChar = false ∧ behind.head?.any isIdentifierChar = false := by
  rw [Option.isSome_iff_exists]
  simp only [whole, Option.bind_eq_bind, Option.bind_eq_some_iff,
    List.isPrefixOf?_eq_some_iff_append_eq, Option.ite_none_left_eq_some, Bool.or_eq_true, not_or,
    Bool.not_eq_true, Option.some.injEq]
  constructor
  · rintro ⟨-, behind, hcs, hends, -⟩
    exact ⟨behind, hcs.symm, hends⟩
  · rintro ⟨behind, hcs, hends⟩
    exact ⟨_, behind, hcs.symm, hends, rfl⟩

private theorem occurs_whole_iff {cs : List Char} (hname : name ≠ []) :
    (whole name).occurs cs = true ↔ ∃ k, UsedAt cs name k := by
  rw [Recogniser.occurs, Recogniser.isSome_first?_iff_exists_append]
  constructor
  · rintro ⟨u, v, rfl, -, hread⟩
    obtain ⟨behind, rfl, hbefore, hbehind⟩ := isSome_whole.1 hread
    exact ⟨u.length, u, behind, rfl, rfl, by simpa using hbefore, hbehind⟩
  · rintro ⟨k, before, behind, rfl, -, hbefore, hbehind⟩
    exact ⟨before, name ++ behind, rfl, by simp [hname],
      isSome_whole.2 ⟨behind, rfl, by simpa using hbefore, hbehind⟩⟩

theorem mem_unused_iff {i : Found (List Char)} (h : i ∈ all content) :
    i ∈ unused content ↔ ∀ k, ¬ UsedAt (body content) i.value k := by
  obtain ⟨start, c, hname, -⟩ := exists_concat_of_mem_all h
  rw [unused, List.mem_filter, Bool.not_eq_true', ← Bool.not_eq_true,
    occurs_whole_iff (by simp [hname]), not_exists]
  exact and_iff_right h

theorem statement_eq_none {c : Char} (hc : c ≠ '\n') (cs : List Char) :
    statement (some c) cs = none := by
  rw [statement, if_pos (by simpa using hc)]

/-- Where something has been taken out, a line starts behind what has been kept, and the scan is at
the end of a line. -/
theorem getLast?_of_scanned {passed kept rest : List Char}
    (h : statement.Scanned content passed kept rest) :
    passed.getLast? = kept.getLast? ∨ StartsLine kept ∧ rest.head?.any (· != '\n') = false := by
  induction h with
  | start => exact .inl rfl
  | keep _ _ _ => exact .inl (by rw [List.getLast?_concat, List.getLast?_concat])
  | @take passed kept taken left names _ _ hread ih =>
    obtain ⟨hstart, hline⟩ := statement_eq_some_iff.1 hread
    obtain ⟨s, -, -, -, -, hleft, -⟩ := exists_parts hline
    refine .inr ⟨?_, hleft⟩
    rcases ih with hsame | ⟨hkept, -⟩
    · rwa [StartsLine, ← hsame]
    · exact hkept

private theorem any_isIdentifierChar_of_startsLine {passed : List Char} (h : StartsLine passed) :
    passed.getLast?.any isIdentifierChar = false := by
  rw [StartsLine] at h
  cases hlast : passed.getLast? with
  | none => rfl
  | some c =>
    obtain rfl : c = '\n' := by simpa [hlast] using h
    decide

private theorem exists_of_eraseFrom_line {c : Char} {y rest : List Char} (hc : c ≠ '\n')
    (hname : '\n' ∉ name) (h : statement.eraseFrom (some c) rest = name ++ y) :
    ∃ v, rest = name ++ v ∧ v.head? = y.head? := by
  induction name generalizing c rest with
  | nil =>
    refine ⟨rest, rfl, ?_⟩
    cases rest with
    | nil => rw [← List.nil_append y, ← h, Recogniser.eraseFrom]
    | cons d rest =>
      rw [Recogniser.eraseFrom_cons_of_none (statement_eq_none hc _)] at h
      rw [← List.nil_append y, ← h]
      rfl
  | cons d name ih =>
    cases rest with
    | nil => simp [Recogniser.eraseFrom] at h
    | cons e rest =>
      rw [Recogniser.eraseFrom_cons_of_none (statement_eq_none hc _)] at h
      obtain ⟨rfl, hmore⟩ := List.cons.inj h
      rw [List.mem_cons, not_or] at hname
      obtain ⟨v, rfl, hv⟩ := ih (Ne.symm hname.1) hname.2 hmore
      exact ⟨v, rfl, hv⟩

private theorem allFrom_line {c : Char} (hc : c ≠ '\n') (hname : '\n' ∉ name) (v : List Char) :
    statement.allFrom offset (some c) (name ++ v)
      = statement.allFrom (offset + name.length) ((c :: name).getLast?) v := by
  induction name generalizing c offset with
  | nil => rfl
  | cons d name ih =>
    rw [List.mem_cons, not_or] at hname
    rw [List.cons_append, Recogniser.allFrom_cons_of_none (statement_eq_none hc _),
      ih (Ne.symm hname.1) hname.2, List.length_cons, List.getLast?_cons_cons, Nat.add_right_comm,
      Nat.add_assoc]

/-- A use that goes on behind the place where a statement is read goes on behind the blanks before
the statement. -/
theorem ReadAt.lt_of_usedAt {start : List Char} {c : Char} (h : ReadAt content offset s)
    (hused : UsedAt content (start ++ [c]) k) (hc : isBlank c = false)
    (hlt : offset < k + (start ++ [c]).length) :
    offset + s.blanks.length < k + (start ++ [c]).length := by
  obtain ⟨before, behind, hcontent, rfl, -, -⟩ := hused
  obtain ⟨left, hdrop, -⟩ := h.read
  rw [List.length_append, List.length_singleton] at hlt ⊢
  by_contra hge
  have hlast : content[before.length + start.length]? = some c := by
    rw [hcontent, List.append_assoc, ← List.append_assoc, ← List.length_append,
      List.getElem?_append_right le_rfl, Nat.sub_self]
    rfl
  obtain ⟨j, hj⟩ := Nat.exists_eq_add_of_le (show offset ≤ before.length + start.length by omega)
  rw [hj, ← List.getElem?_drop, hdrop, Parts.chars, List.append_assoc,
    List.getElem?_append_left (by omega)] at hlast
  rw [h.proper.blanks c (List.mem_of_getElem? hlast)] at hc
  cases hc

theorem meets_or_behind_of_takes {start taken left names : List Char} {i : Found (List Char)}
    (htakes : statement.Takes content start taken left names) (hi : i ∈ all content)
    (hused : UsedAt content i.value k) (hlow : start.length < k + i.value.length)
    (hhigh : k < start.length + taken.length) :
    MeetsStatement content k (k + i.value.length) ∨ BehindStatement content k := by
  obtain ⟨s, hread, rfl⟩ := exists_readAt_of_takes htakes
  obtain ⟨before, c, hname, hc⟩ := exists_concat_of_mem_all hi
  rw [hname] at hused hlow ⊢
  have hblanks := hread.lt_of_usedAt hused hc hlow
  by_cases hbehind : start.length + s.blanks.length + s.text.length ≤ k
  · have htail : s.tail ≠ [] := by
      intro hnil
      rw [Parts.length_chars, hnil, List.length_nil] at hhigh
      omega
    exact .inr ⟨_, s, hread, Parts.getLast?_text htail, hbehind, hhigh⟩
  · exact .inl ⟨_, s, hread, hblanks, by omega⟩

private theorem exists_usedAt_body {i : Found (List Char)} (hi : i ∈ all content)
    (hused : UsedAt content i.value k)
    (hfree : ¬ (MeetsStatement content k (k + i.value.length) ∨ BehindStatement content k)) :
    ∃ j, UsedAt (body content) i.value j := by
  obtain ⟨start, c, hname, hc⟩ := exists_concat_of_mem_all hi
  have hne : i.value ≠ [] := by simp [hname]
  have hpos := List.length_pos_iff.2 hne
  obtain ⟨before, behind, hcontent, rfl, hbefore, hbehind⟩ := id hused
  rcases Recogniser.scanned_or_takes statement_consumes hcontent with
    ⟨kept, hscanned⟩ | ⟨_, _, _, _, htakes, hlow, hhigh⟩
  · rcases hscanned.keep_or_takes statement_consumes with
      hkept | ⟨_, taken, _, _, htakes, hlow, hhigh⟩
    · -- The name is kept, and at its two ends nothing is put together that was apart.
      refine ⟨kept.length, kept, statement.eraseFrom (before ++ i.value).getLast? behind, ?_, rfl,
        ?_, ?_⟩
      · rw [body, hkept.eraseFrom_eq, List.append_assoc]
      · rcases getLast?_of_scanned hscanned with hsame | ⟨hline, -⟩
        · rwa [← hsame]
        · exact any_isIdentifierChar_of_startsLine hline
      · cases behind with
        | nil => rw [Recogniser.eraseFrom]; rfl
        | cons d behind =>
          rw [hname, ← List.append_assoc, List.getLast?_concat,
            Recogniser.eraseFrom_cons_of_none (statement_eq_none (ne_lineEnd hc) _)]
          exact hbehind
    · -- A statement would start within the name.
      have htaken := List.length_pos_iff.2 htakes.2.1
      exact absurd (meets_or_behind_of_takes htakes hi hused hhigh (by omega)) hfree
  · -- The name would start within what is read as a statement.
    exact absurd (meets_or_behind_of_takes htakes hi hused (by omega) hhigh) hfree

/-- What is used on one line of what is left is used in the script, not in a statement nor behind
one. -/
theorem exists_usedAt_of_body (hne : name ≠ []) (hline : '\n' ∉ name)
    (hused : UsedAt (body content) name k) : ∃ j, UsedAt content name j
      ∧ ¬ (MeetsStatement content j (j + name.length) ∨ BehindStatement content j) := by
  obtain ⟨kept, y, hbody, -, hkept, hy⟩ := hused
  obtain ⟨c, name, rfl⟩ := List.exists_cons_of_ne_nil hne
  rw [List.mem_cons, not_or] at hline
  obtain ⟨passed, rest, hscanned, hnone, herase⟩ :=
    Recogniser.Scanned.start.exists_of_eraseFrom statement_consumes hbody
  obtain ⟨v, rfl, hv⟩ := exists_of_eraseFrom_line (Ne.symm hline.1) hline.2 herase
  have hbefore : passed.getLast?.any isIdentifierChar = false := by
    rcases getLast?_of_scanned hscanned with hsame | ⟨-, hend⟩
    · rwa [hsame]
    · exact absurd (by simpa using hend) (Ne.symm hline.1)
  -- A statement that is read starts behind the name, or it ends before it.
  have hends {offset : Nat} {s : Parts} (hread : ReadAt content offset s)
      (hstart : offset < passed.length + (c :: name).length) :
      offset + s.chars.length ≤ passed.length := by
    obtain ⟨left, hdrop, hstatement⟩ := hread.read
    refine (hscanned.mem_or_le hread.mem_all hdrop hstatement).resolve_left fun hmem => ?_
    rw [Recogniser.allFrom_cons_of_none hnone, allFrom_line (Ne.symm hline.1) hline.2] at hmem
    have hle : _ ≤ offset := Recogniser.le_offset_of_mem_allFrom hmem
    rw [List.length_cons] at hstart
    omega
  refine ⟨passed.length, ⟨passed, v, hscanned.eq_append, rfl, hbefore, by rwa [hv]⟩, ?_⟩
  rintro (⟨offset, s, hread, hfirst, hlast⟩ | ⟨offset, s, hread, -, hfirst, hlast⟩)
  · have hend := hends hread (by omega)
    rw [Parts.length_chars] at hend
    omega
  · have hend := hends hread (by rw [List.length_cons]; omega)
    omega

/-- All uses of an unused import stand in import statements or behind the semicolon that ends one,
on the same line. An import with all its uses there is unused, unless its name goes over several
lines. -/
theorem unused_uses {i : Found (List Char)} (hi : i ∈ all content) :
    (i ∈ unused content → ∀ k, UsedAt content i.value k →
      MeetsStatement content k (k + i.value.length) ∨ BehindStatement content k)
    ∧ ('\n' ∉ i.value →
      (∀ k, UsedAt content i.value k →
        MeetsStatement content k (k + i.value.length) ∨ BehindStatement content k) →
      i ∈ unused content) := by
  rw [mem_unused_iff hi]
  constructor
  · intro hunused k hused
    by_contra hfree
    obtain ⟨j, hbody⟩ := exists_usedAt_body hi hused hfree
    exact hunused j hbody
  · intro hline huses k hbody
    obtain ⟨start, c, hname, -⟩ := exists_concat_of_mem_all hi
    obtain ⟨j, hused, hfree⟩ := exists_usedAt_of_body (by simp [hname]) hline hbody
    exact hfree (huses j hused)

/-- A script that imports a name and uses it. -/
def calling (between : String) : List Char :=
  "import \x7b a \x7d from 'x';".toList ++ (between.toList ++ "a();".toList)

/-- A name that is used on the line below its statement is not reported. -/
theorem unused_uses_below : ⟨0, ['a']⟩ ∈ all (calling "\n") ∧ UsedAt (calling "\n") ['a'] 23
    ∧ ⟨0, ['a']⟩ ∉ unused (calling "\n") := by
  have hall : statement.all (calling "\n") = [⟨0, " a ".toList⟩] := by decide +kernel
  have hi : ⟨0, ['a']⟩ ∈ all (calling "\n") := by
    rw [all, hall]
    decide
  have hused : UsedAt (calling "\n") ['a'] 23 :=
    ⟨"import \x7b a \x7d from 'x';\n".toList, "();".toList, by decide, by decide, by decide,
      by decide⟩
  have hread : statement none (calling "\n") = some (" a ".toList, "\na();".toList) := by decide
  have hends {offset : Nat} {s : Parts} (h : ReadAt (calling "\n") offset s) :
      offset + s.chars.length = 22 := by
    obtain ⟨rfl, -, happend⟩ := h.eq_append_of_all hall hread
    have hlength := congrArg List.length happend
    rw [List.length_append] at hlength
    change 27 = _ + 5 at hlength
    omega
  refine ⟨hi, hused, fun hunused => ?_⟩
  rcases (unused_uses hi).1 hunused 23 hused with
    ⟨offset, s, h, -, hlast⟩ | ⟨offset, s, h, -, -, hlast⟩
  · have hend := hends h
    rw [Parts.length_chars] at hend
    omega
  · have hend := hends h
    omega

/-- A name that is used behind its statement, on the same line, is reported all the same. -/
theorem mem_unused_behind : ⟨0, ['a']⟩ ∈ all (calling " ") ∧ UsedAt (calling " ") ['a'] 23
    ∧ ¬ MeetsStatement (calling " ") 23 24 ∧ ⟨0, ['a']⟩ ∈ unused (calling " ") := by
  have hall : statement.all (calling " ") = [⟨0, " a ".toList⟩] := by decide +kernel
  have hread : statement none (calling " ") = some (" a ".toList, []) := by decide
  have hi : ⟨0, ['a']⟩ ∈ all (calling " ") := by
    rw [all, hall]
    decide
  have hused : UsedAt (calling " ") ['a'] 23 :=
    ⟨"import \x7b a \x7d from 'x'; ".toList, "();".toList, by decide, by decide, by decide,
      by decide⟩
  have hbody : body (calling " ") = [] := by decide +kernel
  have hunused : ⟨0, ['a']⟩ ∈ unused (calling " ") := by
    rw [mem_unused_iff hi, hbody]
    rintro k ⟨before, behind, happend, -⟩
    simp at happend
  refine ⟨hi, hused, ?_, hunused⟩
  rintro ⟨offset, s, h, -, hlast⟩
  obtain ⟨rfl, hnames, happend⟩ := h.eq_append_of_all hall hread
  have hcalling : calling " " = "import \x7b a \x7d from 'x'".toList ++ ';' :: " a();".toList := by
    decide
  rw [hcalling, List.append_nil, Parts.chars_eq, ← List.append_assoc] at happend
  have hlength : 23 < (s.blanks ++ s.text).length := by
    rw [List.length_append]
    omega
  rcases List.append_eq_append_iff.1 happend.symm with ⟨more, hmore, -⟩ | ⟨more, htext, hmore⟩
  · have hshort := congrArg List.length hmore
    rw [List.length_append] at hshort
    change 21 = _ at hshort
    omega
  · -- The text of the statement would go on behind its semicolon.
    rw [htext, List.length_append] at hlength
    change 23 < 21 + _ at hlength
    cases more with
    | nil => exact absurd hlength (by decide)
    | cons c more =>
      obtain ⟨rfl, -⟩ := List.cons.inj hmore
      obtain rfl := h.proper.eq_nil_of_semicolon (by rw [hnames]; decide) htext
      rw [List.length_singleton] at hlength
      omega

end NamedImport

end SiteTemplate
