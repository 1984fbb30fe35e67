import SiteTemplate.Proofs.LetterCase
import SiteTemplate.Proofs.ValidationByFile

/-!
# Lengths of titles and descriptions

The title of a page is measured as a whole. The content of a description ends at a quotation mark of
either sort, whichever sort stands before it: a description without a single quotation mark is
measured as a whole, and of any other a shorter part is measured, or nothing.
-/

namespace SiteTemplate

open Text

namespace Tag

variable {before : Option Char} {cs left v : List Char} {text description : List Char}

private theorem afterQuote?_eq_some_iff :
    afterQuote? cs = some left ↔ ∃ q, cs = q :: left ∧ isQuote q = true := by
  cases cs with
  | nil => simp [afterQuote?]
  | cons c cs =>
    simp only [afterQuote?, Option.ite_none_right_eq_some, Option.some.injEq, List.cons.injEq]
    constructor
    · rintro ⟨hc, rfl⟩
      exact ⟨c, ⟨rfl, rfl⟩, hc⟩
    · rintro ⟨q, ⟨rfl, rfl⟩, hq⟩
      exact ⟨hq, rfl⟩

private theorem exists_of_quotedContent (h : quotedContent before cs = some (v, left)) :
    ∃ word q q', cs = word ++ q :: (v ++ q' :: left)
      ∧ word.map foldChar = "content=".toList.map foldChar
      ∧ isQuote q = true ∧ isQuote q' = true ∧ ∀ c ∈ v, isQuote c = false := by
  simp only [quotedContent, Option.bind_eq_bind, Option.bind_eq_some_iff,
    afterIgnoringCase?_eq_some_iff, afterQuote?_eq_some_iff] at h
  obtain ⟨_, ⟨word, rfl, hword⟩, rest, ⟨q, rfl, hq⟩, left', ⟨q', hrest, hq'⟩, hread⟩ := h
  obtain ⟨-, hread⟩ := Option.ite_none_left_eq_some.1 hread
  obtain ⟨rfl, rfl⟩ := Prod.mk.inj (Option.some.inj hread)
  refine ⟨word, q, q', ?_, hword, hq, hq', fun c hc => by simpa using List.mem_takeWhile_imp hc⟩
  rw [← hrest, List.takeWhile_append_dropWhile]

private theorem quotedContent_description (hne : description ≠ [])
    (hquotes : ∀ c ∈ description, isQuote c = false) :
    quotedContent before ("content=".toList ++ '"' :: (description ++ ['"', '>']))
      = some (description, ['>']) := by
  have hrun : ∀ c ∈ description, (!isQuote c) = true := fun c hc => by simp [hquotes c hc]
  have hempty : description.isEmpty = false := by simp [hne]
  have hopen : afterQuote? ('"' :: (description ++ ['"', '>']))
      = some (description ++ ['"', '>']) := rfl
  have hclose : afterQuote? ['"', '>'] = some ['>'] := rfl
  have hstop : ['"', '>'].head?.any (!isQuote ·) = false := rfl
  simp only [quotedContent, afterIgnoringCase?_append, hopen, Option.bind_eq_bind, Option.bind_some,
    takeWhile_append_of_stop hrun hstop, dropWhile_append_of_stop hrun hstop, hclose, hempty,
    Bool.false_eq_true, if_false]

private theorem exists_of_last? {α : Type} {r : Recogniser α} {found : α × List Char}
    (h : last? r cs = some found) : ∃ u w, cs = u ++ w ∧ r none w = some found := by
  induction cs with
  | nil => cases h
  | cons c cs ih =>
    rw [last?, Option.ite_none_left_eq_some, Option.or_eq_some_iff] at h
    rcases h.2 with hmore | ⟨-, hread⟩
    · obtain ⟨u, w, rfl, hw⟩ := ih hmore
      exact ⟨c :: u, w, rfl, hw⟩
    · exact ⟨[], c :: cs, rfl, hread⟩

/-- What follows the name that marks a description. -/
def contentChars (description : List Char) : List Char :=
  ' ' :: ("content=".toList ++ '"' :: (description ++ ['"', '>']))

private theorem prefix_of_append_quote {z : List Char} {q : Char}
    (h : description ++ ['"', '>'] = z ++ (v ++ q :: left)) (hq : isQuote q = true) :
    z ++ v <+: description := by
  have hne : left ≠ [] := by
    rintro rfl
    have hlast := congrArg List.getLast? h
    obtain rfl : '>' = q := by simpa using hlast
    exact absurd hq (by decide)
  have hcount := congrArg List.length h
  have hpos := List.length_pos_iff.2 hne
  have hread : z ++ v <+: description ++ ['"', '>'] :=
    ⟨q :: left, by rw [h, List.append_assoc]⟩
  refine List.prefix_of_prefix_length_le hread (List.prefix_append _ _) ?_
  simp only [List.length_append, List.length_cons, List.length_nil] at hcount ⊢
  omega

/-- A content that is read behind the mark of a description lies within the description, at its
start or behind a quotation mark. -/
theorem exists_of_last?_contentChars
    (h : last? quotedContent (contentChars description) = some (v, left)) :
    ∃ z q', description ++ ['"', '>'] = z ++ (v ++ q' :: left) ∧ z ++ v <+: description
      ∧ z.getLast?.all isQuote = true ∧ isQuote q' = true ∧ ∀ c ∈ v, isQuote c = false := by
  obtain ⟨u, w, hcs, hread⟩ := exists_of_last? h
  obtain ⟨word, q, q', rfl, hword, hq, hq', hv⟩ := exists_of_quotedContent hread
  have hlength : word.length = "content=".toList.length := by
    simpa only [List.length_map] using congrArg List.length hword
  have hspace : ' ' ∉ word := by
    rw [sign_mem_iff (by decide) hword]
    decide
  -- The word does not start with the space, so that the content starts behind the first mark.
  have hstart : 0 < u.length := by
    cases u with
    | nil =>
      cases word with
      | nil => exact absurd hlength (by decide)
      | cons c word =>
        obtain ⟨rfl, -⟩ := List.cons.inj hcs
        exact absurd List.mem_cons_self hspace
    | cons c u => exact Nat.succ_pos _
  have hbehind : ' ' :: ("content=".toList ++ ['"']) <+: u ++ (word ++ [q]) := by
    have hmark : ' ' :: ("content=".toList ++ ['"']) <+: contentChars description :=
      ⟨description ++ ['"', '>'], by simp [contentChars]⟩
    have hread : u ++ (word ++ [q]) <+: contentChars description :=
      ⟨v ++ q' :: left, by simp [hcs]⟩
    refine List.prefix_of_prefix_length_le hmark hread ?_
    simp only [List.length_cons, List.length_append, hlength, List.length_nil]
    omega
  obtain ⟨z, hz⟩ := hbehind
  have hrest : description ++ ['"', '>'] = z ++ (v ++ q' :: left) := by
    have hsame : (' ' :: ("content=".toList ++ ['"'])) ++ (description ++ ['"', '>'])
        = (' ' :: ("content=".toList ++ ['"'])) ++ (z ++ (v ++ q' :: left)) := by
      rw [← List.append_assoc _ z, hz]
      simpa [contentChars] using hcs
    exact List.append_cancel_left hsame
  refine ⟨z, q', hrest, prefix_of_append_quote hrest hq', ?_, hq', hv⟩
  have hlast := congrArg List.getLast? hz
  rw [List.getLast?_append, ← List.append_assoc, List.getLast?_concat] at hlast
  cases hend : z.getLast? with
  | none => rfl
  | some c =>
    rw [hend] at hlast
    obtain rfl : c = q := Option.some.inj hlast
    exact hq

private theorem last?_contentChars (hne : description ≠ [])
    (hquotes : ∀ c ∈ description, isQuote c = false) :
    last? quotedContent (contentChars description) = some (description, ['>']) := by
  have hread : quotedContent none ("content=".toList ++ '"' :: (description ++ ['"', '>']))
      = some (description, ['>']) := quotedContent_description hne hquotes
  have hsome : (last? quotedContent (contentChars description)).isSome = true := by
    have hcons : "content=".toList = 'c' :: "ontent=".toList := rfl
    rw [hcons, List.cons_append] at hread
    rw [contentChars, hcons, last?, if_neg (by decide), List.cons_append, last?,
      if_neg (by decide), hread]
    simp
  obtain ⟨⟨v, left⟩, hfound⟩ := Option.isSome_iff_exists.1 hsome
  obtain ⟨z, q', hrest, hwithin, hlast, hq', hv⟩ := exists_of_last?_contentChars hfound
  -- There is no quotation mark in the description behind which the content could stand.
  obtain rfl : z = [] := by
    cases hend : z.getLast? with
    | none => exact List.getLast?_eq_none_iff.1 hend
    | some c =>
      have hmem : c ∈ description :=
        hwithin.subset (List.mem_append_left _ (List.mem_of_getLast? hend))
      rw [hend, Option.all_some, hquotes c hmem] at hlast
      cases hlast
  have hrun {run : List Char} (h : ∀ c ∈ run, isQuote c = false) :
      ∀ c ∈ run, (!isQuote c) = true := fun c hc => by simp [h c hc]
  rw [List.nil_append] at hrest
  obtain ⟨rfl, hleft⟩ := eq_of_runs hrest (hrun hquotes) (by decide) (hrun hv) (by simp [hq'])
  rw [hfound, (List.cons.inj hleft).2]

private theorem length_lt_of_last?_contentChars {q : Char} (hmem : q ∈ description)
    (hq : isQuote q = true)
    (h : last? quotedContent (contentChars description) = some (v, left)) :
    v.length < description.length := by
  obtain ⟨z, -, -, hwithin, -, -, hv⟩ := exists_of_last?_contentChars h
  have hpart : v <:+: description := ((List.suffix_append z v).isInfix).trans hwithin.isInfix
  refine Nat.lt_of_le_of_ne hpart.length_le fun hlength => ?_
  rw [hpart.eq_of_length hlength] at hv
  rw [hv q hmem] at hq
  cases hq

/-- The text of a title. -/
def titleChars (text : List Char) : List Char :=
  '<' :: ("title>".toList ++ (text ++ '<' :: "/title>".toList))

/-- The text of a tag with a description. -/
def descriptionChars (description : List Char) : List Char :=
  '<' :: ("meta name=\"description\"".toList ++ contentChars description)

private theorem first?_title (hne : text ≠ []) (htext : '<' ∉ text) (cs : List Char) :
    title.first? none (titleChars text ++ cs) = some ⟨0, text⟩ := by
  have hstop : ∀ c ∈ text, (c != '<') = true := forall_bne_of_not_mem htext
  have hempty : text.isEmpty = false := by simp [hne]
  have hbody : afterIgnoringCase? "<title" (titleChars text ++ cs)
      = some ('>' :: (text ++ '<' :: "/title>".toList ++ cs)) := rfl
  have hclose : afterClose? ('>' :: (text ++ '<' :: "/title>".toList ++ cs))
      = some (text ++ ("</title>".toList ++ cs)) := by
    rw [List.append_assoc]
    rfl
  have hhead : ("</title>".toList ++ cs).head?.any (· != '<') = false := rfl
  have hread : title none (titleChars text ++ cs) = some (text, cs) := by
    simp only [title, hbody, hclose, afterIgnoringCase?_append, Option.bind_eq_bind,
      Option.bind_some, takeWhile_append_of_stop hstop hhead, dropWhile_append_of_stop hstop hhead,
      hempty, Bool.false_eq_true, if_false]
  exact Recogniser.first?_cons_of_some hread

private theorem description_eq_none {c : Char} (hc : c ≠ '<') (before : Option Char)
    (cs : List Char) :
    Tag.description before (c :: cs) = none := by
  have hliteral : "<meta".toList = '<' :: "meta".toList := rfl
  rw [Tag.description, afterIgnoringCase?_eq_none (by decide) hliteral hc]
  rfl

private theorem first?_description (htext : '<' ∉ text) (hdescription : '<' ∉ description) :
    Tag.description.first? none (titleChars text ++ descriptionChars description)
      = (last? quotedContent (contentChars description)).map
        fun found => ⟨(titleChars text).length, found.1⟩ := by
  have hnone {u : List Char} (h : '<' ∉ u) :
      ∀ c ∈ u, ∀ b cs, Tag.description b (c :: cs) = none :=
    fun c hc => description_eq_none (by rintro rfl; exact h hc)
  have hopen (cs : List Char) :
      Tag.description none ('<' :: ("title>".toList ++ text ++ cs)) = none := rfl
  have hclose (b : Option Char) (cs : List Char) :
      Tag.description b ('<' :: ("/title>".toList ++ cs)) = none := rfl
  have hmark (b : Option Char) (cs : List Char) :
      Tag.description b ('<' :: ("meta name=\"description\"".toList ++ cs))
        = last? quotedContent cs := rfl
  have hfirst : '<' ∉ "title>".toList ++ text := by simp [htext]
  have hlast : '<' ∉ "meta name=\"description\"".toList ++ contentChars description := by
    simp [contentChars, hdescription]
  have hpage : titleChars text ++ descriptionChars description
      = '<' :: ("title>".toList ++ text ++ '<' :: ("/title>".toList
        ++ '<' :: ("meta name=\"description\"".toList ++ contentChars description))) := by
    simp only [titleChars, descriptionChars, List.append_assoc, List.cons_append]
  rw [hpage, Recogniser.first?_cons_of_none (hopen _),
    Recogniser.first?_append_of_none (hnone hfirst), Recogniser.first?_cons_of_none (hclose _ _),
    Recogniser.first?_append_of_none (hnone (by decide)),
    Recogniser.first?_cons_of_forall_none (hnone hlast), hmark]
  cases last? quotedContent (contentChars description) with
  | none => rfl
  | some found =>
    simp only [Option.map_some, Option.some.injEq, Found.mk.injEq, and_true, titleChars,
      List.length_cons, List.length_append]
    omega

end Tag

namespace Content

variable {f : ProcessedFile} {what inShort : String} {limit : Nat}

/-- The warning that a text is too long. -/
def lengthWarning (f : ProcessedFile) (offset length limit : Nat) (what inShort : String) : Issue :=
  Issue.atPlace ruleName .warning f offset
    s!"{what} too long: {length} characters (max: {limit})"
    s!"Shorten the {inShort} for better SEO"

/-- The warnings about a text that has a limit. -/
def lengthWarnings (f : ProcessedFile) (offset length limit : Nat) (what inShort : String) :
    List Issue :=
  if limit < length then [lengthWarning f offset length limit what inShort] else []

/-- The issue is about a text that is too long. -/
def isAbout (what : String) (i : Issue) : Bool := startsWith s!"{what} too long: " i.message.toList

theorem toList_tooLong (r : Recogniser (List Char)) :
    (tooLong r limit f what inShort).toList = ((r.first? none f.content.toList).map fun found =>
      lengthWarnings f found.offset found.value.length limit what inShort).getD [] := by
  unfold tooLong
  cases r.first? none f.content.toList with
  | none => rfl
  | some found =>
    simp only [Option.bind_some, Option.map_some, Option.getD_some, lengthWarnings, lengthWarning]
    split <;> rfl

theorem exists_of_mem_tooLong {r : Recogniser (List Char)} {i : Issue}
    (h : i ∈ tooLong r limit f what inShort) :
    ∃ offset length, i = lengthWarning f offset length limit what inShort := by
  obtain ⟨found, -, hfound⟩ := Option.bind_eq_some_iff.1 h
  obtain ⟨-, hwarning⟩ := Option.ite_none_right_eq_some.1 hfound
  exact ⟨found.offset, found.value.length, (Option.some.inj hwarning).symm⟩

private theorem filter_isAbout_issues {c : Constraints} {content : ContentConstraints}
    (hc : c.content = some content) (hpath : FileKind.isMarkup f.path = true) :
    (rule.issues [f] c).filter (isAbout "Title") = (longTitle content.seo f).toList
    ∧ (rule.issues [f] c).filter (isAbout "Meta description")
      = (longDescription content.seo f).toList := by
  have hissues : rule.issues [f] c = (longTitle content.seo f).toList
      ++ (longDescription content.seo f).toList
      ++ content.seo.metaTags.filterMap (missingTag f) := by
    rw [rule, Rule.issues_perFile_ok, hc, Option.map_some, Option.getD_some, fileIssues,
      if_pos hpath]
  have htitle : ∀ i ∈ (longTitle content.seo f).toList,
      isAbout "Title" i = true ∧ isAbout "Meta description" i = false := by
    intro i hi
    obtain ⟨offset, length, rfl⟩ := exists_of_mem_tooLong (Option.mem_toList.1 hi)
    simp only [isAbout, lengthWarning, Issue.atPlace, Issue.onFile, startsWith, toString,
      String.toList_append]
    exact ⟨rfl, rfl⟩
  have hdescription : ∀ i ∈ (longDescription content.seo f).toList,
      isAbout "Title" i = false ∧ isAbout "Meta description" i = true := by
    intro i hi
    obtain ⟨offset, length, rfl⟩ := exists_of_mem_tooLong (Option.mem_toList.1 hi)
    simp only [isAbout, lengthWarning, Issue.atPlace, Issue.onFile, startsWith, toString,
      String.toList_append]
    exact ⟨rfl, rfl⟩
  have hmissing : ∀ i ∈ content.seo.metaTags.filterMap (missingTag f),
      isAbout "Title" i = false ∧ isAbout "Meta description" i = false := by
    intro i hi
    obtain ⟨tag, -, htag⟩ := List.mem_filterMap.1 hi
    obtain ⟨-, htag⟩ := Option.ite_none_left_eq_some.1 htag
    obtain rfl := Option.some.inj htag
    simp only [isAbout, Issue.onFile, startsWith, toString, String.toList_append]
    exact ⟨rfl, rfl⟩
  have hkeep {about : Issue → Bool} {issues : List Issue} (h : ∀ i ∈ issues, about i = true) :
      issues.filter about = issues := List.filter_eq_self.2 h
  have hdrop {about : Issue → Bool} {issues : List Issue} (h : ∀ i ∈ issues, about i = false) :
      issues.filter about = [] := List.filter_eq_nil_iff.2 fun i hi => by simp [h i hi]
  rw [hissues, List.filter_append, List.filter_append, List.filter_append, List.filter_append]
  constructor
  · rw [hkeep fun i hi => (htitle i hi).1, hdrop fun i hi => (hdescription i hi).1,
      hdrop fun i hi => (hmissing i hi).1, List.append_nil, List.append_nil]
  · rw [hdrop fun i hi => (htitle i hi).2, hkeep fun i hi => (hdescription i hi).2,
      hdrop fun i hi => (hmissing i hi).2, List.nil_append, List.append_nil]

private theorem length_eq_of_lengthWarning_eq {offset n m : Nat}
    (h : lengthWarning f offset n limit what inShort
      = lengthWarning f offset m limit what inShort) : n = m := by
  have hmessage := congrArg Issue.message h
  have hrepr : n.repr = m.repr := by
    simpa [lengthWarning, Issue.atPlace, Issue.onFile] using hmessage
  have hdigits : Nat.toDigits 10 n = Nat.toDigits 10 m := by
    simpa using congrArg String.toList hrepr
  rw [← Nat.ofDigitChars_ten_toDigits (n := n), hdigits, Nat.ofDigitChars_ten_toDigits]

theorem lengthWarnings_eq_nil_iff {offset length : Nat} :
    lengthWarnings f offset length limit what inShort = [] ↔ length ≤ limit := by
  simp [lengthWarnings]

private theorem lengthWarnings_eq_iff {offset n m : Nat} (h : n < m) :
    lengthWarnings f offset n limit what inShort = lengthWarnings f offset m limit what inShort
      ↔ m ≤ limit := by
  constructor
  · intro heq
    by_contra hm
    rw [lengthWarnings, lengthWarnings, if_pos (Nat.lt_of_not_le hm)] at heq
    split at heq
    · exact h.ne (length_eq_of_lengthWarning_eq (List.cons.inj heq).1)
    · cases heq
  · intro hm
    rw [lengthWarnings_eq_nil_iff.2 hm, lengthWarnings_eq_nil_iff.2 (h.le.trans hm)]

/-- On a page with a title and a description the title has a warning exactly if it is longer than
its limit, and the warning tells its length. With the description it is so exactly if there is no
single quotation mark in it or it is not longer than its limit. -/
theorem length_limits {text description : List Char} (htext : text ≠ []) (htag : '<' ∉ text)
    (hdescription : description ≠ []) (hsigns : ∀ c ∈ description, c ≠ '"' ∧ c ≠ '<' ∧ c ≠ '>')
    {f : ProcessedFile} {c : Constraints} {content : ContentConstraints}
    (hc : c.content = some content) (hpath : FileKind.isMarkup f.path = true)
    (hpage : f.content.toList = Tag.titleChars text ++ Tag.descriptionChars description) :
    (rule.issues [f] c).filter (isAbout "Title")
      = lengthWarnings f 0 text.length content.seo.titleMaxLen "Title" "title"
    ∧ ((rule.issues [f] c).filter (isAbout "Meta description")
        = lengthWarnings f (Tag.titleChars text).length description.length content.seo.descMaxLen
          "Meta description" "meta description"
      ↔ '\'' ∉ description ∨ description.length ≤ content.seo.descMaxLen) := by
  have hbracket : '<' ∉ description := fun h => (hsigns _ h).2.1 rfl
  obtain ⟨htitle, hlong⟩ := filter_isAbout_issues hc hpath
  rw [htitle, hlong, longTitle, longDescription, toList_tooLong, toList_tooLong, hpage,
    Tag.first?_title htext htag, Tag.first?_description htag hbracket]
  refine ⟨rfl, ?_⟩
  by_cases happ : '\'' ∈ description
  · rw [or_iff_right (not_not_intro happ)]
    cases hread : Tag.last? Tag.quotedContent (Tag.contentChars description) with
    | none =>
      rw [eq_comm]
      exact lengthWarnings_eq_nil_iff
    | some found =>
      exact lengthWarnings_eq_iff (Tag.length_lt_of_last?_contentChars happ (by decide) hread)
  · have hquotes : ∀ c ∈ description, Tag.isQuote c = false := by
      intro c hc
      have hsingle : c ≠ '\'' := by
        rintro rfl
        exact happ hc
      simp [Tag.isQuote, (hsigns c hc).1, hsingle]
    rw [Tag.last?_contentChars hdescription hquotes]
    exact iff_of_true rfl (.inl happ)

/-- A page with a title and a description. -/
def describedPage (text description : String) : ProcessedFile :=
  { path := "index.html"
    content := .ofList (Tag.titleChars text.toList ++ Tag.descriptionChars description.toList)
    type := "code"
    size := 0 }

/-- Limits for titles and descriptions. -/
def limits (titleMaxLen descMaxLen : Nat) : Constraints :=
  { content := some { seo := { titleMaxLen, descMaxLen } } }

/-- A page whose title has thirteen characters and whose description has eighteen. -/
def bakery : ProcessedFile := describedPage "Bakery > Home" "Fresh bread & café"

/-- A title and a description are reported that have one character more than they may have. -/
theorem length_limits_bakery : '<' ∉ "Bakery > Home".toList
    ∧ (∀ c ∈ "Fresh bread & café".toList, c ≠ '"' ∧ c ≠ '<' ∧ c ≠ '>')
    ∧ (rule.issues [bakery] (limits 12 17)).filter (isAbout "Title")
      = [lengthWarning bakery 0 13 12 "Title" "title"]
    ∧ (rule.issues [bakery] (limits 12 17)).filter (isAbout "Meta description")
      = [lengthWarning bakery 28 18 17 "Meta description" "meta description"] := by
  have htag : '<' ∉ "Bakery > Home".toList := by decide
  have hsigns : ∀ c ∈ "Fresh bread & café".toList, c ≠ '"' ∧ c ≠ '<' ∧ c ≠ '>' := by decide
  have hwarnings := length_limits (by decide) htag (by decide) hsigns (f := bakery)
    (c := limits 12 17) rfl (by decide) String.toList_ofList
  have hsingle : '\'' ∉ "Fresh bread & café".toList := by decide
  exact ⟨htag, hsigns, hwarnings.1, hwarnings.2.2 (.inl hsingle)⟩

/-- A description of ten characters has no warning where five are allowed, for it is not measured
beyond its apostrophe. -/
theorem not_length_limits_apostrophe :
    (describedPage "T" "Bob's shop").content
      = "<title>T</title><meta name=\"description\" content=\"Bob's shop\">"
    ∧ (∀ c ∈ "Bob's shop".toList, c ≠ '"' ∧ c ≠ '<' ∧ c ≠ '>')
    ∧ lengthWarnings (describedPage "T" "Bob's shop") 16 "Bob's shop".length 5
      "Meta description" "meta description" ≠ []
    ∧ (rule.issues [describedPage "T" "Bob's shop"] (limits 60 5)).filter
      (isAbout "Meta description") = [] := by
  decide +kernel

end Content

end SiteTemplate
