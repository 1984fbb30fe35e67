import SiteTemplate.Proofs.AuthoredText
import SiteTemplate.Proofs.TagStates

/-!
# Forests of markup

Well-formed markup is printed from a forest of elements, with placeholder forms among the children
of elements and inside tags. No form stands where a tag of it starts, so the forms of the text are
those of the forest.
-/

namespace SiteTemplate.Markup

open Text Placeholder

/-- The text of an item, which is empty for a form. -/
def plainText : Item → List Char
  | .literal cs => cs
  | .form _ => []

/-- The start of a tag with the text and the forms that follow its name. -/
def tagStart (name : List Char) (attributes : List Item) : List Char :=
  '<' :: (name ++ attributes.flatMap Item.chars)

def lowerName (name : List Char) : String := lowered (.ofList name)

/-- The texts of the forms in a tag, each with the name of the tag. -/
def inTag (name : List Char) (attributes : List Item) : List (String × Option String) :=
  (attributes.filterMap Item.written?).map fun w => (.ofList w.chars, some (lowerName name))

/-- The text and the forms that may follow the name of a tag. -/
structure ProperAttributes (attributes : List Item) : Prop where
  forms : ∀ w ∈ attributes.filterMap Item.written?, w.Proper
  /-- Their text is empty or starts with a blank. -/
  start : ∀ c ∈ (attributes.flatMap plainText).head?, isBlank c = true
  plain : ∀ c ∈ attributes.flatMap plainText, c ≠ '<' ∧ c ≠ '>' ∧ c ≠ '\x7b'
  noSlash : (trim (attributes.flatMap plainText)).getLast? ≠ some '/'

/-- A forest of nodes: none, or a first node with the forest of its siblings. -/
inductive Forest where
  | nil
  | text (cs : List Char) (rest : Forest)
  | form (w : Written) (rest : Forest)
  | element (name : List Char) (attributes : List Item) (children rest : Forest)
  /-- The tag of an element that has no content. -/
  | void (name : List Char) (attributes : List Item) (rest : Forest)
  /-- A tag that a slash ends. -/
  | selfClosing (name : List Char) (attributes : List Item) (rest : Forest)

namespace Forest

/-- The text that a forest prints. -/
def chars : Forest → List Char
  | nil => []
  | text cs rest => cs ++ rest.chars
  | form w rest => w.chars ++ rest.chars
  | element name attributes children rest =>
    tagStart name attributes ++ '>' :: (children.chars ++ '<' :: '/' :: (name ++ '>' :: rest.chars))
  | void name attributes rest => tagStart name attributes ++ '>' :: rest.chars
  | selfClosing name attributes rest => tagStart name attributes ++ '/' :: '>' :: rest.chars

/-- The forms of a forest in order, each with the name of the tag around it; `outer` is the name of
the element that holds the forest. -/
def enclosures (outer : Option String) : Forest → List (String × Option String)
  | nil => []
  | text _ rest => rest.enclosures outer
  | form w rest => (.ofList w.chars, outer) :: rest.enclosures outer
  | element name attributes children rest =>
    inTag name attributes ++
      (children.enclosures (some (lowerName name)) ++ rest.enclosures outer)
  | void name attributes rest | selfClosing name attributes rest =>
    inTag name attributes ++ rest.enclosures outer

/-- Text without brackets and left braces, forms as they can be written, and tags with proper names
and attributes. A tag that a slash ends is no form. -/
def Proper : Forest → Prop
  | nil => True
  | text cs rest => (∀ c ∈ cs, c ≠ '<' ∧ c ≠ '>' ∧ c ≠ '\x7b') ∧ rest.Proper
  | form w rest => w.Proper ∧ rest.Proper
  | element name attributes children rest =>
    IsTagName name ∧ name ≠ "data".toList ∧ lowerName name ∉ voidElements ∧
      ProperAttributes attributes ∧ children.Proper ∧ rest.Proper
  | void name attributes rest =>
    IsTagName name ∧ lowerName name ∈ voidElements ∧ ProperAttributes attributes ∧ rest.Proper
  | selfClosing name attributes rest =>
    IsTagName name ∧ name ≠ "data".toList ∧ ProperAttributes attributes ∧
      (∀ w : Written, w.Proper → w.chars ≠ tagStart name attributes ++ "/>".toList) ∧ rest.Proper

end Forest

variable {name after rest : List Char} {attributes : List Item}

theorem tag_of_isPrefix {w : Written} (hw : w.Proper) (hname : IsTagName name)
    (hafter : after.head?.any isNameChar = false) (h : w.chars <+: '<' :: (name ++ after)) :
    name = "data".toList ∨ w.chars = '<' :: (name ++ "/>".toList) ∧ "/>".toList <+: after := by
  obtain ⟨more, heq⟩ := h
  have hshort (kind : List Char) (hkind : kind.all isNameChar = true)
      (hchars : w.chars = '<' :: (kind ++ "/>".toList)) :
      w.chars = '<' :: (name ++ "/>".toList) ∧ "/>".toList <+: after := by
    rw [hchars, List.cons_append, List.append_assoc] at heq
    obtain ⟨rfl, rfl⟩ := eq_of_runs (List.cons.inj heq).2 (List.all_eq_true.1 hkind) rfl
      hname.isNameChar_of_mem hafter
    exact ⟨hchars, more, rfl⟩
  cases w with
  | tw => exact .inr (hshort "tw".toList (by decide) rfl)
  | text => exact .inr (hshort "text".toList (by decide) rfl)
  | img => exact .inr (hshort "img".toList (by decide) rfl)
  | data blanks key =>
    obtain ⟨hne, hblanks, -, -⟩ := hw
    refine .inl ?_
    obtain ⟨b, blanks, rfl⟩ := List.exists_cons_of_ne_nil hne
    have hb : isNameChar b = false := isNameChar_of_isBlank (hblanks b List.mem_cons_self)
    rw [Written.chars_data, List.append_assoc] at heq
    have hkind : ∀ c ∈ "data".toList, isNameChar c = true := List.all_eq_true.1 (by decide)
    have hdata := eq_of_runs (List.cons.inj heq).2 hkind (by simpa using hb)
      hname.isNameChar_of_mem hafter
    exact hdata.1.symm
  | slot before path after' => cases heq

theorem head?_attributes (h : ∀ c ∈ (attributes.flatMap plainText).head?, isBlank c = true) :
    ∀ c ∈ (attributes.flatMap Item.chars).head?, isBlank c = true ∨ c = '<' ∨ c = '\x7b' := by
  induction attributes with
  | nil => simp
  | cons i attributes ih =>
    intro c hc
    cases i with
    | form w =>
      rw [List.flatMap_cons, Item.chars, List.head?_append_of_ne_nil _ w.chars_ne_nil] at hc
      refine .inr ?_
      rcases w.head?_chars with hw | hw
      · exact .inl (Option.some.inj (hc.symm.trans hw))
      · exact .inr (Option.some.inj (hc.symm.trans hw))
    | literal cs =>
      cases cs with
      | nil => exact ih h c hc
      | cons d cs => exact .inl (h c hc)

theorem isNameChar_head?_attributes (ha : ProperAttributes attributes)
    (hrest : rest.head?.any isNameChar = false) :
    (attributes.flatMap Item.chars ++ rest).head?.any isNameChar = false := by
  refine isNameChar_head?_append (fun c hc => ?_) hrest
  rcases head?_attributes ha.start c hc with hblank | rfl | rfl
  · exact isNameChar_of_isBlank hblank
  · rfl
  · rfl

theorem eq_nil_of_slash (ha : ProperAttributes attributes)
    (h : "/>".toList <+: attributes.flatMap Item.chars ++ rest) :
    attributes.flatMap Item.chars = [] := by
  obtain ⟨more, heq⟩ := h
  cases hchars : attributes.flatMap Item.chars with
  | nil => rfl
  | cons c cs =>
    have hc := head?_attributes ha.start c (by rw [hchars]; rfl)
    rw [hchars] at heq
    obtain rfl := (List.cons.inj heq).1
    exact absurd hc (by decide)

theorem not_isPrefix_tag (hname : IsTagName name) (hdata : name ≠ "data".toList)
    (ha : ProperAttributes attributes) (rest : List Char) {w : Written} (hw : w.Proper) :
    ¬ w.chars <+: tagStart name attributes ++ '>' :: rest := by
  intro h
  rw [tagStart, List.cons_append, List.append_assoc] at h
  rcases tag_of_isPrefix hw hname (isNameChar_head?_attributes ha rfl) h with hd | ⟨-, hslash⟩
  · exact hdata hd
  · rw [eq_nil_of_slash ha hslash] at hslash
    exact absurd (List.cons_prefix_cons.1 hslash).1 (by decide)

theorem not_isPrefix_selfClosing (hname : IsTagName name) (hdata : name ≠ "data".toList)
    (ha : ProperAttributes attributes)
    (hform : ∀ w : Written, w.Proper → w.chars ≠ tagStart name attributes ++ "/>".toList)
    (rest : List Char) {w : Written} (hw : w.Proper) :
    ¬ w.chars <+: tagStart name attributes ++ '/' :: '>' :: rest := by
  intro h
  rw [tagStart, List.cons_append, List.append_assoc] at h
  rcases tag_of_isPrefix hw hname (isNameChar_head?_attributes ha rfl) h with hd | ⟨hchars, hslash⟩
  · exact hdata hd
  · refine hform w hw ?_
    rw [tagStart, eq_nil_of_slash ha hslash, List.append_nil]
    exact hchars

theorem not_isPrefix_endTag (rest : List Char) {w : Written} : ¬ w.chars <+: '<' :: '/' :: rest := by
  rintro ⟨more, heq⟩
  cases w <;> exact absurd (List.cons.inj heq).2 nofun

end SiteTemplate.Markup
