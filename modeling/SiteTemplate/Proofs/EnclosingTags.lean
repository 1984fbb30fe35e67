import SiteTemplate.Proofs.MarkupForest

/-!
# Placeholders in well-formed markup

When the text of a forest is cut again, every placeholder notes the tag that is around it in the
forest: the one in which it was printed, or else the innermost element that holds it. Reading a
forest leaves the open elements as they were, and this carries the induction.
-/

namespace SiteTemplate.Markup

open Text Placeholder

variable {name rest : List Char} {attributes : List Item}

private theorem getLast?_ne_slash (ha : ProperAttributes attributes) :
    (attributes.flatMap plainText).getLast? ≠ some '/' := by
  intro h
  obtain ⟨cs, hcs⟩ := List.getLast?_eq_some_iff.1 h
  refine ha.noSlash ?_
  have hslash : isBlank '/' = false := by decide
  rw [← getLast?_trimEnd, hcs, trimEnd, dropEndWhile, List.reverse_append, List.reverse_singleton,
    List.singleton_append, List.dropWhile_cons_of_neg (by simp [hslash]), List.getLast?_reverse]
  rfl

theorem isNameChar_head?_plainText (ha : ProperAttributes attributes)
    (hrest : rest.head?.any isNameChar = false) :
    (attributes.flatMap plainText ++ rest).head?.any isNameChar = false :=
  isNameChar_head?_append (fun c hc => isNameChar_of_isBlank (ha.start c hc)) hrest

theorem isNameChar_head?_flatMap (ha : ProperAttributes attributes) :
    (attributes.flatMap plainText).head?.any isNameChar = false := by
  have h : (attributes.flatMap plainText ++ []).head?.any isNameChar = false :=
    isNameChar_head?_plainText ha rfl
  rwa [List.append_nil] at h

theorem ofBody?_start (hname : IsTagName name) (hrest : rest.head?.any isNameChar = false) :
    Tag.ofBody? (name ++ rest) =
      let selfClosing := rest.getLast? == some '/'
      some
        { closing := false, name := lowerName name, selfClosing
          attributes := if selfClosing then rest.dropLast else rest } := by
  simp only [Tag.ofBody?, hname.head?_append_ne_slash, Bool.false_eq_true, if_false,
    hname.readName_append hrest, Option.map_some, lowerName]

private theorem ofBody?_end (hname : IsTagName name) :
    Tag.ofBody? ('/' :: name) =
      some { closing := true, name := lowerName name, selfClosing := false, attributes := [] } := by
  have hread : readName (name ++ []) = some (lowerName name, []) := hname.readName_append rfl
  rw [List.append_nil] at hread
  simp [Tag.ofBody?, hread]

namespace State

variable {s : State} {stack : List Element}

private theorem InTag.feed_element (h : s.InTag stack (name ++ attributes.flatMap plainText))
    (hname : IsTagName name) (hvoid : lowerName name ∉ voidElements)
    (ha : ProperAttributes attributes) :
    (s.feed ['>']).Between (⟨lowerName name, attributes.flatMap plainText⟩ :: stack) := by
  have hlast : ((attributes.flatMap plainText).getLast? == some '/') = false := by
    simpa using getLast?_ne_slash ha
  have htag := ofBody?_start hname (isNameChar_head?_flatMap ha)
  have hslash := ha.noSlash
  rw [← getLast?_trimEnd] at hslash
  simpa [hlast, afterTag, Tag.isEmpty, hslash, hvoid] using h.feed_close htag

private theorem InTag.feed_void (h : s.InTag stack (name ++ attributes.flatMap plainText))
    (hname : IsTagName name) (hvoid : lowerName name ∈ voidElements)
    (ha : ProperAttributes attributes) : (s.feed ['>']).Between stack := by
  have htag := ofBody?_start hname (isNameChar_head?_flatMap ha)
  simpa [afterTag, Tag.isEmpty, hvoid] using h.feed_close htag

private theorem InTag.feed_selfClosing
    (h : s.InTag stack (name ++ (attributes.flatMap plainText ++ ['/'])))
    (hname : IsTagName name) (ha : ProperAttributes attributes) :
    (s.feed ['>']).Between stack := by
  have hrest : (attributes.flatMap plainText ++ ['/']).head?.any isNameChar = false :=
    isNameChar_head?_plainText ha rfl
  have htag := ofBody?_start hname hrest
  simpa [afterTag, Tag.isEmpty] using h.feed_close htag

private theorem InTag.feed_endTag {text : List Char}
    (h : s.InTag (⟨lowerName name, text⟩ :: stack) ('/' :: name)) (hname : IsTagName name) :
    (s.feed ['>']).Between stack := by
  simpa [afterTag, closeElement] using h.feed_close (ofBody?_end hname)

end State

/-- The placeholders that pieces make from a state on, each with its text and the tag around it. -/
def notes (file : String) (s : State) : List Piece → List (String × Option String)
  | [] => []
  | .literal cs :: ps => notes file (s.feed cs) ps
  | .form _ raw :: ps => (.ofList raw, (s.context file).tagName) :: notes file s ps

private theorem notes_annotate (file : String) (c : Cursor) (ps : List Piece) :
    ((annotate file c ps).filterMap (·.marker?)).map (fun p => (p.raw, p.context.tagName)) =
      notes file c.markup ps := by
  induction ps generalizing c with
  | nil => rfl
  | cons p ps ih =>
    cases p with
    | literal cs => exact ih (c.advance (.literal cs))
    | form f raw => exact congrArg (_ :: ·) (ih (c.advance (.form f raw)))

namespace State

variable {s : State} {stack : List Element} {file : String}

theorem Reachable.notes_foldr_pushChar (hs : s.Reachable) (cs : List Char) (ps : List Piece) :
    notes file s (cs.foldr pushChar ps) = notes file (s.feed cs) ps := by
  induction cs generalizing s with
  | nil => rfl
  | cons c cs ih =>
    have hpush (ps : List Piece) : notes file s (pushChar c ps) = notes file (s.feed [c]) ps := by
      cases ps with
      | nil => rfl
      | cons p ps =>
        cases p with
        | literal ds => rw [pushChar, notes, notes, hs.feed_feed]; rfl
        | form f raw => rfl
    rw [List.foldr_cons, hpush, ih (hs.feed [c]), hs.feed_feed]
    rfl

theorem Reachable.notes_text (hs : s.Reachable) {cs : List Char}
    (h : ∀ c ∈ cs, c ≠ '<' ∧ c ≠ '\x7b') (rest : List Char) :
    notes file s (pieces (cs ++ rest)) = notes file (s.feed cs) (pieces rest) := by
  rw [pieces_literal_append (fun hm => (h _ hm).1 rfl) (fun hm => (h _ hm).2 rfl),
    hs.notes_foldr_pushChar]

theorem Reachable.notes_cons (hs : s.Reachable) {c : Char}
    (h : ∀ w : Written, w.Proper → ¬ w.chars <+: c :: rest) :
    notes file s (pieces (c :: rest)) = notes file (s.feed [c]) (pieces rest) := by
  rw [pieces_cons h]
  exact hs.notes_foldr_pushChar [c] (pieces rest)

theorem Reachable.notes_char (hs : s.Reachable) {c : Char} (hangle : c ≠ '<')
    (hbrace : c ≠ '\x7b') (rest : List Char) :
    notes file s (pieces (c :: rest)) = notes file (s.feed [c]) (pieces rest) :=
  hs.notes_cons fun w _ => not_chars_isPrefix_cons hangle hbrace w

private theorem InTag.notes_attributes {done : List Char} (hs : s.InTag stack (name ++ done))
    (hname : IsTagName name) (hforms : ∀ w ∈ attributes.filterMap Item.written?, w.Proper)
    (hplain : ∀ c ∈ attributes.flatMap plainText, c ≠ '<' ∧ c ≠ '>' ∧ c ≠ '\x7b')
    (hstart : ∀ c ∈ (done ++ attributes.flatMap plainText).head?, isBlank c = true) :
    notes file s (pieces (attributes.flatMap Item.chars ++ rest)) =
      inTag name attributes ++
        notes file (s.feed (attributes.flatMap plainText)) (pieces rest) := by
  induction attributes generalizing s done with
  | nil => rfl
  | cons i attributes ih =>
    cases i with
    | form w =>
      have hw : w.Proper := hforms w (by simp [Item.written?])
      have hdone : done.head?.any isNameChar = false := by
        cases done with
        | nil => rfl
        | cons c done => simpa using isNameChar_of_isBlank (hstart c rfl)
      have hread : readName (trimStart (name ++ done)) = some (lowerName name, done) := by
        rw [hname.trimStart_append, hname.readName_append hdone, lowerName]
      have htag : (s.context file).tagName = some (lowerName name) := hs.tagName_context hread
      have hmore := ih hs (fun w' hw' => hforms w' (by simp [Item.written?, hw'])) hplain hstart
      rw [List.flatMap_cons, Item.chars, List.append_assoc, pieces_chars_append hw, notes, htag,
        hmore]
      rfl
    | literal cs =>
      rw [List.flatMap_cons, plainText, List.forall_mem_append] at hplain
      have hcs : ∀ c ∈ cs, isBracket c = false := by
        intro c hc
        simp [isBracket, (hplain.1 c hc).1, (hplain.1 c hc).2.1]
      have hnext : (s.feed cs).InTag stack (name ++ (done ++ cs)) := by
        rw [← List.append_assoc]
        exact hs.feed_text hcs
      have hmore := ih hnext hforms hplain.2 (by simpa [plainText] using hstart)
      rw [List.flatMap_cons, Item.chars, List.append_assoc,
        hs.reachable.notes_text (fun c hc => ⟨(hplain.1 c hc).1, (hplain.1 c hc).2.2⟩), hmore,
        hs.reachable.feed_feed]
      rfl

theorem Between.exists_inTag (hs : s.Between stack) (hname : IsTagName name)
    (ha : ProperAttributes attributes)
    (hfree : ∀ w : Written, w.Proper → ¬ w.chars <+: tagStart name attributes ++ rest) :
    ∃ s' : State, s'.InTag stack (name ++ attributes.flatMap plainText) ∧
      notes file s (pieces (tagStart name attributes ++ rest)) =
        inTag name attributes ++ notes file s' (pieces rest) := by
  have hopen : (s.feed ['<']).InTag stack [] := hs.feed_tag (by simp)
  have hnamed : ((s.feed ['<']).feed name).InTag stack (name ++ []) := by
    simpa using hopen.feed_text hname.isBracket_of_mem
  have hbrackets : ∀ c ∈ attributes.flatMap plainText, isBracket c = false := by
    intro c hc
    simp [isBracket, (ha.plain c hc).1, (ha.plain c hc).2.1]
  refine ⟨((s.feed ['<']).feed name).feed (attributes.flatMap plainText), ?_, ?_⟩
  · simpa using hnamed.feed_text hbrackets
  · rw [tagStart, List.cons_append, List.append_assoc] at hfree ⊢
    rw [hs.reachable.notes_cons hfree, hopen.reachable.notes_text hname.ne_of_mem,
      hnamed.notes_attributes hname ha.forms ha.plain ha.start]

private theorem Between.exists_afterEndTag {text : List Char}
    (hs : s.Between (⟨lowerName name, text⟩ :: stack)) (hname : IsTagName name) :
    ∃ s' : State, s'.Between stack ∧
      notes file s (pieces ('<' :: '/' :: (name ++ '>' :: rest))) = notes file s' (pieces rest) := by
  have hopen : (s.feed ['<']).InTag (⟨lowerName name, text⟩ :: stack) [] :=
    hs.feed_tag (by simp)
  have hend : ((s.feed ['<']).feed ('/' :: name)).InTag (⟨lowerName name, text⟩ :: stack)
      ('/' :: name) :=
    hopen.feed_text (List.forall_mem_cons.2 ⟨by decide, hname.isBracket_of_mem⟩)
  have hplain : ∀ c ∈ '/' :: name, c ≠ '<' ∧ c ≠ '\x7b' :=
    List.forall_mem_cons.2 ⟨by decide, hname.ne_of_mem⟩
  refine ⟨((s.feed ['<']).feed ('/' :: name)).feed ['>'], hend.feed_endTag hname, ?_⟩
  rw [hs.reachable.notes_cons fun w _ => not_isPrefix_endTag _, ← List.cons_append,
    hopen.reachable.notes_text hplain, hend.reachable.notes_char (by decide) (by decide)]

private theorem Between.exists_between (hs : s.Between stack) {forest : Forest} (h : forest.Proper)
    (file : String) (rest : List Char) :
    ∃ s' : State, s'.Between stack ∧
      notes file s (pieces (forest.chars ++ rest)) =
        forest.enclosures (stack.head?.map Element.name) ++ notes file s' (pieces rest) := by
  induction forest generalizing s stack rest with
  | nil => exact ⟨s, hs, rfl⟩
  | text cs more ih =>
    obtain ⟨hcs, hmore⟩ := h
    have hplain : ∀ c ∈ cs, isBracket c = false := by
      intro c hc
      simp [isBracket, (hcs c hc).1, (hcs c hc).2.1]
    obtain ⟨s', hs', hnotes⟩ := ih (hs.feed_text hplain) hmore rest
    refine ⟨s', hs', ?_⟩
    rw [Forest.chars, List.append_assoc,
      hs.reachable.notes_text fun c hc => ⟨(hcs c hc).1, (hcs c hc).2.2⟩, hnotes]
    rfl
  | form w more ih =>
    obtain ⟨hw, hmore⟩ := h
    obtain ⟨s', hs', hnotes⟩ := ih hs hmore rest
    refine ⟨s', hs', ?_⟩
    rw [Forest.chars, List.append_assoc, pieces_chars_append hw, notes, hs.tagName_context, hnotes]
    rfl
  | element name attributes children more ihChildren ihMore =>
    obtain ⟨hname, hdata, hvoid, ha, hchildren, hmore⟩ := h
    obtain ⟨s₁, hs₁, hstart⟩ := hs.exists_inTag hname ha fun w hw =>
      not_isPrefix_tag hname hdata ha
        (children.chars ++ '<' :: '/' :: (name ++ '>' :: (more.chars ++ rest))) hw
    obtain ⟨s₂, hs₂, hinner⟩ := ihChildren (hs₁.feed_element hname hvoid ha) hchildren _
    obtain ⟨s₃, hs₃, hend⟩ := hs₂.exists_afterEndTag hname
    obtain ⟨s₄, hs₄, houter⟩ := ihMore hs₃ hmore rest
    refine ⟨s₄, hs₄, ?_⟩
    rw [hs₁.reachable.notes_char (by decide) (by decide), hinner, hend, houter] at hstart
    simpa [Forest.chars, Forest.enclosures] using hstart
  | void name attributes more ih =>
    obtain ⟨hname, hvoid, ha, hmore⟩ := h
    have hdata : name ≠ "data".toList := by
      rintro rfl
      exact absurd hvoid (by decide)
    obtain ⟨s₁, hs₁, hstart⟩ := hs.exists_inTag hname ha fun w hw =>
      not_isPrefix_tag hname hdata ha (more.chars ++ rest) hw
    obtain ⟨s₂, hs₂, houter⟩ := ih (hs₁.feed_void hname hvoid ha) hmore rest
    refine ⟨s₂, hs₂, ?_⟩
    rw [hs₁.reachable.notes_char (by decide) (by decide), houter] at hstart
    simpa [Forest.chars, Forest.enclosures] using hstart
  | selfClosing name attributes more ih =>
    obtain ⟨hname, hdata, ha, hform, hmore⟩ := h
    obtain ⟨s₁, hs₁, hstart⟩ := hs.exists_inTag hname ha fun w hw =>
      not_isPrefix_selfClosing hname hdata ha hform (more.chars ++ rest) hw
    have hslash : (s₁.feed ['/']).InTag stack (name ++ (attributes.flatMap plainText ++ ['/'])) := by
      rw [← List.append_assoc]
      exact hs₁.feed_text (by simp [isBracket])
    obtain ⟨s₂, hs₂, houter⟩ := ih (hslash.feed_selfClosing hname ha) hmore rest
    refine ⟨s₂, hs₂, ?_⟩
    rw [hs₁.reachable.notes_char (by decide) (by decide),
      hslash.reachable.notes_char (by decide) (by decide), houter] at hstart
    simpa [Forest.chars, Forest.enclosures] using hstart

end State

/-- The placeholders of the text that a forest prints are the forms of the forest in order, and each
notes the tag around it: the tag in which it stands, or else the innermost element that holds it. -/
theorem tagNames_inText {forest : Forest} (h : forest.Proper) (file : String) :
    (inText (.ofList forest.chars) file).map (fun p => (p.raw, p.context.tagName)) =
      forest.enclosures none := by
  obtain ⟨s, -, hnotes⟩ := State.between_start.exists_between h file []
  have hpieces : pieces forest.chars = pieces (forest.chars ++ []) := by rw [List.append_nil]
  rw [inText, segments, String.toList_ofList, notes_annotate, hpieces, hnotes, pieces_nil, notes,
    List.append_nil]
  rfl

/-- Names that differ in case only, one inside the other, with a placeholder in a tag, one behind an
element without content and one after everything. -/
def cardForest : Forest :=
  .element "Div".toList [.literal " class=\"".toList, .form .tw, .literal ['"']]
    (.void "BR".toList []
      (.element "div".toList [] (.text "a".toList .nil)
        (.form .text (.selfClosing "Card".toList [.literal [' '], .form .img] .nil))))
    (.form (.slot [] ['a'] []) .nil)

theorem tagNames_inText_card :
    cardForest.Proper ∧
      (inText (.ofList cardForest.chars) "index.html").map (fun p => (p.raw, p.context.tagName)) =
        [("<tw/>", some "div"), ("<text/>", some "div"), ("<img/>", some "card"),
          ("\x7b\x7ba\x7d\x7d", none)] := by
  have hbare : ProperAttributes [] := ⟨by simp, by simp, by simp, by decide⟩
  have hclass : ProperAttributes [.literal " class=\"".toList, .form .tw, .literal ['"']] :=
    ⟨by simp [Item.written?, Written.Proper], by simp [plainText, isBlank_space],
      by simp [plainText], by decide⟩
  have himage : ProperAttributes [.literal [' '], .form .img] :=
    ⟨by simp [Item.written?, Written.Proper], by simp [plainText, isBlank_space],
      by simp [plainText], by decide⟩
  have hcard : ∀ w : Written, w.Proper →
      w.chars ≠ tagStart "Card".toList [.literal [' '], .form .img] ++ "/>".toList := by
    intro w _ h
    have hsecond : w.chars[1]? = some 'C' := by rw [h]; rfl
    cases w <;> cases hsecond
  have htext : ∀ c ∈ "a".toList, c ≠ '<' ∧ c ≠ '>' ∧ c ≠ '\x7b' := by simp
  have hpath : SlotPath ['a'] := ⟨'a', [], [], by decide, by simp, by simp, rfl⟩
  have hslot : (Written.slot [] ['a'] []).Proper := ⟨by simp, hpath, by simp⟩
  have hdiv : IsTagName "Div".toList := ⟨'D', _, rfl, by decide, List.all_eq_true.1 (by decide)⟩
  have hbr : IsTagName "BR".toList := ⟨'B', _, rfl, by decide, List.all_eq_true.1 (by decide)⟩
  have hinner : IsTagName "div".toList := ⟨'d', _, rfl, by decide, List.all_eq_true.1 (by decide)⟩
  have hname : IsTagName "Card".toList := ⟨'C', _, rfl, by decide, List.all_eq_true.1 (by decide)⟩
  have hproper : cardForest.Proper :=
    ⟨hdiv, by decide, by decide, hclass,
      ⟨hbr, by decide, hbare, hinner, by decide, by decide, hbare, ⟨htext, trivial⟩, trivial,
        hname, by decide, himage, hcard, trivial⟩,
      hslot, trivial⟩
  exact ⟨hproper, tagNames_inText hproper "index.html"⟩

end SiteTemplate.Markup
