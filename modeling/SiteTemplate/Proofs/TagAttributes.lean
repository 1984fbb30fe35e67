import SiteTemplate.Proofs.LetterCase
import SiteTemplate.Proofs.ValidationByFile

/-!
# Attributes that the rules see in a tag

A rule takes an attribute to be in a tag where its name begins a word of the tag's text and an
equals sign follows. In a tag that is made of attributes these places are the names themselves, the
ends of longer names after a hyphen, and such places within values. A tag is said to lack an
attribute exactly if it has none of the three.
-/

namespace SiteTemplate

open Text

namespace Tag

variable {tag attr : String} {before : Option Char} {cs : List Char}

/-- The name of an attribute stands in a text at the start of a word, in any case, and an equals
sign follows, with blanks or nothing between them. -/
def Announces (attr : String) (before : Option Char) (cs : List Char) : Prop :=
  ∃ u word blanks after, cs = u ++ (word ++ (blanks ++ '=' :: after))
    ∧ word.map foldChar = attr.toList.map foldChar ∧ (∀ c ∈ blanks, isBlank c = true)
    ∧ (u.getLast?.or before).any isWordChar = false

theorem isSome_attributeNamed_iff : (attributeNamed attr before cs).isSome = true ↔
    ∃ word blanks after, cs = word ++ (blanks ++ '=' :: after)
      ∧ word.map foldChar = attr.toList.map foldChar ∧ (∀ c ∈ blanks, isBlank c = true)
      ∧ before.any isWordChar = false := by
  simp only [attributeNamed, Option.isSome_iff_exists, Option.bind_eq_bind,
    Option.bind_eq_some_iff, afterIgnoringCase?_eq_some_iff]
  constructor
  · rintro ⟨found, rest, ⟨word, rfl, hword⟩, hread⟩
    obtain ⟨hbefore, hread⟩ := Option.ite_none_left_eq_some.1 hread
    obtain ⟨after, hafter, -⟩ := Option.map_eq_some_iff.1 hread
    obtain ⟨blanks, hblanks, hrest⟩ := exists_blanks_append_trimStart rest
    rw [after?_eq_some_iff.1 hafter] at hrest
    exact ⟨word, blanks, after, by rw [hrest]; rfl, hword, hblanks, by simpa using hbefore⟩
  · rintro ⟨word, blanks, after, rfl, hword, hblanks, hbefore⟩
    have htrim : trimStart (blanks ++ '=' :: after) = "=".toList ++ after :=
      trimStart_append_of_stop hblanks rfl
    refine ⟨((), after), _, ⟨word, rfl, hword⟩, ?_⟩
    rw [hbefore, htrim, after?_append]
    rfl

theorem isSome_first?_attributeNamed_iff :
    ((attributeNamed attr).first? before cs).isSome = true ↔ Announces attr before cs := by
  rw [Recogniser.isSome_first?_iff_exists_append]
  constructor
  · rintro ⟨u, v, hcs, -, hv⟩
    obtain ⟨word, blanks, after, rfl, hword, hblanks, hstart⟩ := isSome_attributeNamed_iff.1 hv
    exact ⟨u, word, blanks, after, hcs, hword, hblanks, hstart⟩
  · rintro ⟨u, word, blanks, after, hcs, hword, hblanks, hstart⟩
    refine ⟨u, _, hcs, by simp, ?_⟩
    exact isSome_attributeNamed_iff.2 ⟨word, blanks, after, rfl, hword, hblanks, hstart⟩

instance (attr : String) (before : Option Char) (cs : List Char) :
    Decidable (Announces attr before cs) :=
  decidable_of_iff _ isSome_first?_attributeNamed_iff

private theorem hasAttribute_iff_announces :
    hasAttribute tag attr cs = true ↔ Announces attr tag.toList.getLast? (inside cs) :=
  isSome_first?_attributeNamed_iff

/-- An attribute that is announced in a text with a quotation mark is announced before it or behind
it. -/
theorem announces_append_quote (hattr : '"' ∉ attr.toList) (x y : List Char) :
    Announces attr before (x ++ '"' :: y) ↔ Announces attr before x ∨ Announces attr none y := by
  have hquote : isWordChar '"' = false := by decide
  -- The quotation mark before a text is no word character, and there may as well be none.
  have hlast (u : List Char) : ((x ++ '"' :: u).getLast?.or before).any isWordChar
      = (u.getLast?.or none).any isWordChar := by
    rw [List.getLast?_append_cons, List.getLast?_cons]
    cases u.getLast? <;> simp [hquote]
  constructor
  · rintro ⟨u, word, blanks, after, hcs, hword, hblanks, hstart⟩
    have hneedle : '"' ∉ word ++ (blanks ++ ['=']) := by
      have hblank : '"' ∉ blanks := fun h => absurd (hblanks _ h) (by decide)
      simp [hblank, hattr, sign_mem_iff (x := '"') (by decide) hword]
    rcases List.append_eq_append_iff.1 hcs with ⟨z, rfl, hz⟩ | ⟨z, rfl, hz⟩
    · cases z with
      | nil =>
        have hsame : [] ++ '"' :: y = word ++ (blanks ++ ['=']) ++ after := by simpa using hz
        obtain ⟨more, hmore, -⟩ := exists_append_of_not_mem hsame hneedle
        simp at hmore
      | cons d z =>
        obtain ⟨rfl, rfl⟩ := List.cons.inj hz
        exact .inr ⟨z, word, blanks, after, rfl, hword, hblanks, by rwa [hlast] at hstart⟩
    · have hsame : z ++ '"' :: y = word ++ (blanks ++ ['=']) ++ after := by simpa using hz.symm
      obtain ⟨more, rfl, -⟩ := exists_append_of_not_mem hsame hneedle
      exact .inl ⟨u, word, blanks, more, by simp, hword, hblanks, hstart⟩
  · rintro (⟨u, word, blanks, after, rfl, h⟩ | ⟨u, word, blanks, after, rfl, h⟩)
    · exact ⟨u, word, blanks, after ++ '"' :: y, by simp, h⟩
    · obtain ⟨hword, hblanks, hstart⟩ := h
      exact ⟨x ++ '"' :: u, word, blanks, after, by simp, hword, hblanks, by rwa [hlast]⟩

/-- An attribute with its value. -/
structure Attribute where
  name : List Char
  value : List Char

/-- A character of a name. -/
def isAttributeChar (c : Char) : Bool := isAsciiLetter c || isAsciiDigit c || c == '-'

namespace Attribute

/-- The text of an attribute in a tag: a space, the name, an equals sign, and the value in double
quotation marks. -/
def chars (a : Attribute) : List Char := ' ' :: (a.name ++ '=' :: '"' :: (a.value ++ ['"']))

/-- The name begins with a letter and goes on with letters, digits and hyphens; the value has no
double quotation mark and no angle bracket. -/
structure IsProper (a : Attribute) : Prop where
  start : a.name.head?.any isAsciiLetter = true
  name : ∀ c ∈ a.name, isAttributeChar c = true
  value : ∀ c ∈ a.value, c ≠ '"' ∧ c ≠ '<' ∧ c ≠ '>'

/-- The attribute has a name, in any case. -/
def IsNamed (attr : String) (a : Attribute) : Prop := lower a.name = attr.toList

/-- A name ends a longer name, behind a hyphen. -/
def EndsIn (attr : String) (a : Attribute) : Prop := '-' :: attr.toList <:+ lower a.name

/-- An attribute of another name that is taken for one of this name: its name ends in it, or its
value announces it. -/
def IsMistakenFor (attr : String) (a : Attribute) : Prop :=
  a.EndsIn attr ∨ Announces attr none a.value

instance (a : Attribute) : Decidable a.IsProper :=
  decidable_of_iff (a.name.head?.any isAsciiLetter = true
    ∧ (∀ c ∈ a.name, isAttributeChar c = true) ∧ ∀ c ∈ a.value, c ≠ '"' ∧ c ≠ '<' ∧ c ≠ '>')
    ⟨fun h => ⟨h.1, h.2.1, h.2.2⟩, fun h => ⟨h.start, h.name, h.value⟩⟩

instance (attr : String) (a : Attribute) : Decidable (a.IsNamed attr) :=
  inferInstanceAs (Decidable (lower a.name = attr.toList))

instance (attr : String) (a : Attribute) : Decidable (a.IsMistakenFor attr) :=
  inferInstanceAs (Decidable ('-' :: attr.toList <:+ lower a.name ∨ Announces attr none a.value))

end Attribute

/-- A name in lower case. -/
def IsLowerName (name : String) : Prop :=
  name.toList ≠ [] ∧ ∀ c ∈ name.toList, isAsciiLetter c = true ∧ lowerChar c = c

instance (name : String) : Decidable (IsLowerName name) :=
  inferInstanceAs (Decidable (name.toList ≠ []
    ∧ ∀ c ∈ name.toList, isAsciiLetter c = true ∧ lowerChar c = c))

theorem toNat_lt_of_isAttributeChar {c : Char} (h : isAttributeChar c = true) : c.toNat < 128 := by
  simp only [isAttributeChar, Bool.or_eq_true, beq_iff_eq] at h
  rcases h with (hletter | hdigit) | rfl
  · exact toNat_lt_of_isAsciiLetter hletter
  · simp only [isAsciiDigit, Bool.and_eq_true, decide_eq_true_eq, Char.le_def,
      UInt32.le_iff_toNat_le] at hdigit
    have hnine : '9'.val.toNat = 57 := rfl
    have hval : c.toNat = c.val.toNat := rfl
    omega
  · decide

theorem forall_isAttributeChar {p : Char → Prop}
    (h : ∀ n < 128, isAttributeChar (Char.ofNat n) = true → p (Char.ofNat n)) {c : Char}
    (hc : isAttributeChar c = true) : p c :=
  forall_ascii (p := fun c => isAttributeChar c = true → p c) h (toNat_lt_of_isAttributeChar hc) hc

private theorem isBlank_of_isAttributeChar {c : Char} (h : isAttributeChar c = true) :
    isBlank c = false :=
  forall_isAttributeChar (p := fun c => isBlank c = false) (by decide) h

namespace Attribute

variable {a : Attribute} {attrs : List Attribute}

private theorem IsProper.lower_name (h : a.IsProper) : lower a.name = a.name.map lowerChar :=
  lower_eq_map fun c hc => toNat_lt_of_isAttributeChar (h.name c hc)

theorem not_mem_name (h : a.IsProper) {c : Char} (hc : isAttributeChar c = false) : c ∉ a.name := by
  intro hmem
  rw [h.name c hmem] at hc
  cases hc

theorem map_foldChar_eq_iff {word : List Char} (hattr : IsLowerName attr)
    (hword : ∀ c ∈ word, isAttributeChar c = true) :
    word.map foldChar = attr.toList.map foldChar ↔ word.map lowerChar = attr.toList := by
  have hascii : ∀ c ∈ attr.toList, c.toNat < 128 :=
    fun c hc => toNat_lt_of_isAsciiLetter (hattr.2 c hc).1
  have hlower : attr.toList.map lowerChar = attr.toList :=
    (List.map_congr_left fun c hc => (hattr.2 c hc).2).trans (List.map_id' _)
  have hword : ∀ c ∈ word, c.toNat < 128 := fun c hc => toNat_lt_of_isAttributeChar (hword c hc)
  rw [Text.map_foldChar_eq_iff hword hascii (by rw [lower_eq_map hascii, hlower]),
    lower_eq_map hword]

theorem sign_not_mem (hattr : IsLowerName attr) {c : Char} (hc : isAsciiLetter c = false) :
    c ∉ attr.toList := by
  intro hmem
  rw [(hattr.2 c hmem).1] at hc
  cases hc

/-- A word before the equals sign of an attribute ends the attribute's name: the only equals sign is
the last character, and no blank stands in the name. -/
theorem exists_stem {u word blanks after : List Char} (h : a.IsProper)
    (hcs : ' ' :: (a.name ++ ['=']) = u ++ (word ++ (blanks ++ '=' :: after))) (hne : word ≠ [])
    (hspace : ' ' ∉ word) (hblanks : ∀ c ∈ blanks, isBlank c = true) :
    ∃ stem, u = ' ' :: stem ∧ a.name = stem ++ word := by
  have hequals : '=' ∉ ' ' :: a.name := by simpa using not_mem_name h (c := '=') (by decide)
  have hsame : u ++ (word ++ blanks) ++ '=' :: after = (' ' :: a.name) ++ ['='] := by
    simpa using hcs.symm
  obtain ⟨more, hmore, hrest⟩ := exists_append_of_not_mem hsame hequals
  have hlength := congrArg List.length hrest
  obtain rfl : more = [] := by
    simp only [List.length_append, List.length_cons, List.length_nil] at hlength
    exact List.eq_nil_of_length_eq_zero (by omega)
  rw [List.append_nil] at hmore
  cases u with
  | nil =>
    obtain ⟨d, word, rfl⟩ := List.exists_cons_of_ne_nil hne
    obtain ⟨rfl, -⟩ := List.cons.inj hmore
    exact absurd List.mem_cons_self hspace
  | cons d stem =>
    rw [List.cons_append, List.cons.injEq] at hmore
    obtain ⟨rfl, hname⟩ := hmore
    obtain rfl : blanks = [] := by
      refine List.eq_nil_iff_forall_not_mem.2 fun c hc => ?_
      have hplain := isBlank_of_isAttributeChar (h.name c (by rw [← hname]; simp [hc]))
      rw [hblanks c hc] at hplain
      cases hplain
    exact ⟨stem, rfl, by rw [← hname, List.append_nil]⟩

/-- The text of an attribute up to its equals sign announces the attribute of its name, and that of
each name which its name ends in. -/
theorem announces_name_iff (hattr : IsLowerName attr) (h : a.IsProper) :
    Announces attr before (' ' :: (a.name ++ ['='])) ↔ a.IsNamed attr ∨ a.EndsIn attr := by
  rw [IsNamed, EndsIn, h.lower_name]
  constructor
  · rintro ⟨u, word, blanks, after, hcs, hword, hblanks, hstart⟩
    have hspace : ' ' ∉ word := by
      rw [sign_mem_iff (by decide) hword]
      exact sign_not_mem hattr (by decide)
    have hne : word ≠ [] := by
      rintro rfl
      exact hattr.1 (by simpa using hword.symm)
    obtain ⟨stem, rfl, hname⟩ := exists_stem h hcs hne hspace hblanks
    have hchars := h.name
    rw [hname, List.forall_mem_append] at hchars
    rw [hname, List.map_append, (map_foldChar_eq_iff hattr hchars.2).1 hword]
    rcases List.eq_nil_or_concat' stem with rfl | ⟨stem, c, rfl⟩
    · exact .inl rfl
    · rw [← List.cons_append, List.getLast?_concat] at hstart
      have hc : isWordChar c = false := by simpa using hstart
      have hyphen : c = '-' :=
        forall_isAttributeChar (p := fun c => isWordChar c = false → c = '-') (by decide)
          (hchars.1 c (by simp)) hc
      subst hyphen
      refine .inr ⟨stem.map lowerChar, ?_⟩
      rw [List.map_append, List.append_assoc]
      rfl
  · rintro (hnamed | ⟨stem, hends⟩)
    · exact ⟨[' '], a.name, [], [], rfl, (map_foldChar_eq_iff hattr h.name).2 hnamed, by simp, rfl⟩
    · obtain ⟨start, rest, hname, -, hrest⟩ := List.map_eq_append_iff.1 hends.symm
      obtain ⟨c, word, rfl, hc, hword⟩ := List.map_eq_cons_iff.1 hrest
      have hchars := h.name
      rw [hname, List.forall_mem_append, List.forall_mem_cons] at hchars
      have hyphen : c = '-' :=
        forall_isAttributeChar (p := fun c => lowerChar c = '-' → c = '-') (by decide)
          hchars.2.1 hc
      subst hyphen
      refine ⟨' ' :: (start ++ ['-']), word, [], [], by simp [hname], ?_, by simp, ?_⟩
      · exact (map_foldChar_eq_iff hattr hchars.2.2).2 hword
      · rw [← List.cons_append, List.getLast?_concat]
        rfl

private theorem not_announces_nil : ¬ Announces attr before [] := by
  rintro ⟨u, word, blanks, after, hcs, -⟩
  simp at hcs

/-- A list of attributes announces those that it has, and those that one of its attributes is
mistaken for. -/
theorem announces_flatMap_iff (hattr : IsLowerName attr) (h : ∀ a ∈ attrs, a.IsProper) :
    Announces attr before (attrs.flatMap chars)
      ↔ ∃ a ∈ attrs, a.IsNamed attr ∨ a.IsMistakenFor attr := by
  induction attrs generalizing before with
  | nil => simp [not_announces_nil]
  | cons a attrs ih =>
    rw [List.forall_mem_cons] at h
    have hquote : '"' ∉ attr.toList := sign_not_mem hattr (by decide)
    have hchars : (a :: attrs).flatMap chars
        = (' ' :: (a.name ++ ['='])) ++ '"' :: (a.value ++ '"' :: attrs.flatMap chars) := by
      simp [chars]
    rw [hchars, announces_append_quote hquote, announces_append_quote hquote,
      announces_name_iff hattr h.1, ih h.2]
    simp only [IsMistakenFor, List.mem_cons, exists_eq_or_imp, or_assoc]

theorem not_mem_flatMap (h : ∀ a ∈ attrs, a.IsProper) {c : Char} (hc : c = '<' ∨ c = '>') :
    c ∉ attrs.flatMap chars := by
  rw [List.mem_flatMap]
  rintro ⟨a, ha, hmem⟩
  have hname : c ∉ a.name := not_mem_name (h a ha) (by rcases hc with rfl | rfl <;> decide)
  have hvalue : c ∉ a.value := by
    rcases hc with rfl | rfl
    · exact fun hmem => ((h a ha).value _ hmem).2.1 rfl
    · exact fun hmem => ((h a ha).value _ hmem).2.2 rfl
  have hsigns : c ∉ [' ', '=', '"'] := by rcases hc with rfl | rfl <;> decide
  simp only [chars, List.mem_cons, List.mem_append, List.not_mem_nil, or_false, hname, hvalue,
    false_or, not_or] at hmem hsigns
  rcases hmem with h | h | h | h
  · exact hsigns.1 h
  · exact hsigns.2.1 h
  · exact hsigns.2.2 h
  · exact hsigns.2.2 h

end Attribute

variable {attrs : List Attribute}

/-- A tag with attributes. -/
def tagChars (tag : String) (attrs : List Attribute) : List Char :=
  '<' :: (tag.toList ++ (attrs.flatMap Attribute.chars ++ ['>']))

private theorem lacking_eq_none {c : Char} (hc : c ≠ '<') (before : Option Char) (cs : List Char) :
    lacking tag attr before (c :: cs) = none := by
  have hliteral : ("<" ++ tag).toList = '<' :: tag.toList := by simp
  simp [lacking, afterName?, afterIgnoringCase?_eq_none (by decide) hliteral hc cs]

private theorem afterName?_tagChars (tag : String) (attrs : List Attribute) :
    afterName? tag (tagChars tag attrs) = some (attrs.flatMap Attribute.chars ++ ['>']) := by
  have hliteral : tagChars tag attrs
      = ("<" ++ tag).toList ++ (attrs.flatMap Attribute.chars ++ ['>']) := by simp [tagChars]
  have hhead : (attrs.flatMap Attribute.chars ++ ['>']).head?.any isWordChar = false := by
    cases attrs <;> rfl
  rw [afterName?, hliteral, afterIgnoringCase?_append, Option.bind_eq_bind, Option.bind_some, hhead]
  rfl

private theorem inside_flatMap (h : ∀ a ∈ attrs, a.IsProper) :
    inside (attrs.flatMap Attribute.chars ++ ['>']) = attrs.flatMap Attribute.chars :=
  takeWhile_append_of_stop (forall_bne_of_not_mem (Attribute.not_mem_flatMap h (.inr rfl))) rfl

private theorem afterClose?_flatMap (h : ∀ a ∈ attrs, a.IsProper) :
    afterClose? (attrs.flatMap Attribute.chars ++ ['>']) = some [] := by
  have hrun := forall_bne_of_not_mem (Attribute.not_mem_flatMap h (.inr rfl))
  rw [afterClose?, dropWhile_append_of_stop hrun rfl]
  rfl

/-- A tag that is made of attributes is found to lack an attribute exactly if none of them has its
name or is mistaken for it. -/
theorem isSome_first?_lacking_iff (htag : IsLowerName tag) (hattr : IsLowerName attr)
    (h : ∀ a ∈ attrs, a.IsProper) :
    ((lacking tag attr).first? none (tagChars tag attrs)).isSome = true
      ↔ ¬ ∃ a ∈ attrs, a.IsNamed attr ∨ a.IsMistakenFor attr := by
  have hread : (lacking tag attr none (tagChars tag attrs)).isSome = true
      ↔ ¬ ∃ a ∈ attrs, a.IsNamed attr ∨ a.IsMistakenFor attr := by
    have hannounced : Announces attr tag.toList.getLast? (attrs.flatMap Attribute.chars)
        ↔ ∃ a ∈ attrs, a.IsNamed attr ∨ a.IsMistakenFor attr :=
      Attribute.announces_flatMap_iff hattr h
    rw [← hannounced, ← inside_flatMap h, ← hasAttribute_iff_announces]
    simp [lacking, afterName?_tagChars, afterClose?_flatMap h]
  have hmore : '<' ∉ tag.toList ++ (attrs.flatMap Attribute.chars ++ ['>']) := by
    have htag : '<' ∉ tag.toList := Attribute.sign_not_mem htag (by decide)
    simp [htag, Attribute.not_mem_flatMap h (.inl rfl)]
  -- The tag starts at its bracket, and there is no other.
  have hnone : ∀ d ∈ tag.toList ++ (attrs.flatMap Attribute.chars ++ ['>']), ∀ b cs,
      lacking tag attr b (d :: cs) = none := by
    intro d hd
    exact lacking_eq_none (by rintro rfl; exact hmore hd)
  rw [← hread, tagChars, Recogniser.first?_cons_of_forall_none hnone, Option.isSome_map]

end Tag

namespace Issue

theorem isSome_atFirst? {α : Type} (r : Recogniser α) (rule : String) (severity : Severity)
    (f : ProcessedFile) (message suggestion : String) :
    (atFirst? r rule severity f message suggestion).isSome
      = (r.first? none f.content.toList).isSome :=
  Option.isSome_map

theorem message_of_mem_atFirst? {α : Type} {r : Recogniser α} {rule : String}
    {severity : Severity} {f : ProcessedFile} {message suggestion : String} {i : Issue}
    (h : i ∈ atFirst? r rule severity f message suggestion) : i.message = message := by
  obtain ⟨found, -, rfl⟩ := Option.map_eq_some_iff.1 h
  rfl

theorem exists_message_iff {message : String} {first : Option Issue} {more : List Issue}
    (hfirst : ∀ i ∈ first, i.message = message) (hmore : ∀ i ∈ more, i.message ≠ message) :
    (∃ i ∈ first.toList ++ more, i.message = message) ↔ first.isSome = true := by
  constructor
  · rintro ⟨i, hi, hmessage⟩
    rcases List.mem_append.1 hi with hi | hi
    · exact Option.isSome_of_mem (Option.mem_toList.1 hi)
    · exact absurd hmessage (hmore i hi)
  · intro h
    obtain ⟨i, hi⟩ := Option.isSome_iff_exists.1 h
    exact ⟨i, List.mem_append_left _ (Option.mem_toList.2 hi), hfirst i hi⟩

end Issue

private theorem Accessibility.exists_missingAlt_iff {a : AccessibilityConstraints}
    {f : ProcessedFile}
    {c : Constraints} (ha : c.a11y = some a) (hpath : FileKind.isMarkup f.path = true) :
    (∃ i ∈ rule.issues [f] c, i.message = "Images missing alt attributes")
      ↔ ((Tag.lacking "img" "alt").first? none f.content.toList).isSome = true := by
  have hissues : rule.issues [f] c = (missingAlt f).toList
      ++ ((missingLabel a f).toList ++ ((missingHeading f).toList ++ (smallText a f).toList)) := by
    rw [rule, Rule.issues_perFile_ok, ha, Option.map_some, Option.getD_some, fileIssues,
      if_pos hpath, List.append_assoc, List.append_assoc]
  rw [hissues, ← Issue.isSome_atFirst?]
  refine Issue.exists_message_iff (fun i => Issue.message_of_mem_atFirst?) fun i hi => ?_
  simp only [List.mem_append, Option.mem_toList, missingLabel, missingHeading, smallText] at hi
  rcases hi with hi | hi | hi
  · split at hi
    · rw [Issue.message_of_mem_atFirst? hi]
      decide
    · cases hi
  · split at hi
    · cases hi
      change "Missing H1 heading" ≠ "Images missing alt attributes"
      decide
    · cases hi
  · split at hi
    · rw [Issue.message_of_mem_atFirst? hi]
      decide
    · cases hi

private theorem Security.exists_inlineScript_iff {s : SecurityConstraints} {f : ProcessedFile}
    {c : Constraints} (hs : c.security = some s) (hinline : s.disallowInlineScript = true) :
    (∃ i ∈ rule.issues [f] c, i.message = "Inline scripts detected")
      ↔ ((Tag.lacking "script" "src").first? none f.content.toList).isSome = true := by
  have hissues : rule.issues [f] c
      = (inlineScript s f).toList ++ dangerous.filterMap (danger f) := by
    rw [rule, Rule.issues_perFile_ok, hs, Option.map_some, Option.getD_some, fileIssues]
  rw [hissues, inlineScript, if_pos hinline, ← Issue.isSome_atFirst?]
  refine Issue.exists_message_iff (fun i => Issue.message_of_mem_atFirst?) fun i hi => ?_
  obtain ⟨r, -, hr⟩ := List.mem_filterMap.1 hi
  rw [Issue.message_of_mem_atFirst? hr]
  decide

namespace Tag

/-- An image whose tag is made of attributes is reported as having no alternative text exactly if
none of its attributes is named `alt` or is mistaken for one of this name, and a script as having no
source exactly if none is named `src` or is mistaken for one of this name. -/
theorem attribute_checks {attrs : List Attribute} (h : ∀ a ∈ attrs, a.IsProper) (f : ProcessedFile)
    (c : Constraints) :
    (c.a11y.isSome = true → FileKind.isMarkup f.path = true →
      f.content.toList = tagChars "img" attrs →
      ((∃ i ∈ Accessibility.rule.issues [f] c, i.message = "Images missing alt attributes") ↔
        (¬ ∃ a ∈ attrs, a.IsNamed "alt") ∧ ¬ ∃ a ∈ attrs, a.IsMistakenFor "alt"))
    ∧ ((∃ s, c.security = some s ∧ s.disallowInlineScript = true) →
      f.content.toList = tagChars "script" attrs →
      ((∃ i ∈ Security.rule.issues [f] c, i.message = "Inline scripts detected") ↔
        (¬ ∃ a ∈ attrs, a.IsNamed "src") ∧ ¬ ∃ a ∈ attrs, a.IsMistakenFor "src")) := by
  constructor
  · intro ha hpath hcontent
    obtain ⟨a, ha⟩ := Option.isSome_iff_exists.1 ha
    rw [Accessibility.exists_missingAlt_iff ha hpath, hcontent,
      isSome_first?_lacking_iff (by decide) (by decide) h, ← not_or, ← exists_or]
    simp only [and_or_left]
  · rintro ⟨s, hs, hinline⟩ hcontent
    rw [Security.exists_inlineScript_iff hs hinline, hcontent,
      isSome_first?_lacking_iff (by decide) (by decide) h, ← not_or, ← exists_or]
    simp only [and_or_left]

/-- A page that consists of one tag. -/
def tagPage (tag : String) (attrs : List Attribute) : ProcessedFile :=
  { path := "index.html", content := .ofList (tagChars tag attrs), type := "code", size := 0 }

/-- The blocks that have tags looked at. -/
def tagChecks : Constraints :=
  { a11y := some {}, security := some { disallowInlineScript := true } }

/-- Attributes of a described photo, one of which has a value that nearly announces another. -/
def photo : List Attribute :=
  [⟨"id".toList, "salt = 1".toList⟩, ⟨"ALT".toList, "A café".toList⟩]

/-- As an image this is described, and as a script it has no source. -/
theorem attribute_checks_photo : (∀ a ∈ photo, a.IsProper)
    ∧ (¬ ∃ i ∈ Accessibility.rule.issues [tagPage "img" photo] tagChecks,
      i.message = "Images missing alt attributes")
    ∧ ∃ i ∈ Security.rule.issues [tagPage "script" photo] tagChecks,
      i.message = "Inline scripts detected" := by
  have hproper : ∀ a ∈ photo, a.IsProper := by decide +kernel
  have hnamed : ∃ a ∈ photo, a.IsNamed "alt" := by decide +kernel
  have himg := (attribute_checks hproper (tagPage "img" photo) tagChecks).1 rfl (by decide)
    String.toList_ofList
  have hscript := (attribute_checks hproper (tagPage "script" photo) tagChecks).2 ⟨_, rfl, rfl⟩
    String.toList_ofList
  refine ⟨hproper, ?_, hscript.2 ⟨by decide +kernel, by decide +kernel⟩⟩
  rw [himg]
  exact fun h => h.1 hnamed

/-- Attributes of other names that end in `alt` and in `src`. -/
def deferred : List Attribute :=
  [⟨"data-alt".toList, "A café".toList⟩, ⟨"data-src".toList, "a.png".toList⟩]

/-- An image without an alternative text and a script without a source are passed over. -/
theorem not_attribute_checks_deferred : (∀ a ∈ deferred, a.IsProper)
    ∧ ¬ ((∃ i ∈ Accessibility.rule.issues [tagPage "img" deferred] tagChecks,
        i.message = "Images missing alt attributes") ↔ ¬ ∃ a ∈ deferred, a.IsNamed "alt")
    ∧ ¬ ((∃ i ∈ Security.rule.issues [tagPage "script" deferred] tagChecks,
        i.message = "Inline scripts detected") ↔ ¬ ∃ a ∈ deferred, a.IsNamed "src") := by
  have hnamed : (¬ ∃ a ∈ deferred, a.IsNamed "alt") ∧ ¬ ∃ a ∈ deferred, a.IsNamed "src" := by
    decide +kernel
  have hissues : Accessibility.rule.issues [tagPage "img" deferred] tagChecks = []
      ∧ Security.rule.issues [tagPage "script" deferred] tagChecks = [] := by decide +kernel
  refine ⟨by decide +kernel, ?_, ?_⟩
  · rw [hissues.1]
    exact fun h => absurd (h.2 hnamed.1) (by simp)
  · rw [hissues.2]
    exact fun h => absurd (h.2 hnamed.2) (by simp)

end Tag

end SiteTemplate
