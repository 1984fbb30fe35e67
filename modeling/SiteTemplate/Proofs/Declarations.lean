import SiteTemplate.Proofs.Scanning

/-!
# Declarations of a stylesheet

A reader cuts a stylesheet at its semicolons and braces. Each part between them may declare a
property: its name, a colon and its value, with blanks around them. What stands between two ends is
read on its own, so that the declarations of a stylesheet are those of its lines.
-/

namespace SiteTemplate

open Text

/-- A character at which a declaration ends, or what precedes a block. -/
def endsPart (c : Char) : Bool := [';', '\x7b', '\x7d'].contains c

/-- A blank of a stylesheet. -/
def isSheetBlank (c : Char) : Bool := [' ', '\n', '\t', '\r', '\x0c'].contains c

/-- A character that may stand in the name of a property. -/
def isNameChar (c : Char) : Bool := !(isSheetBlank c || endsPart c || c == ':')

/-- A value without the blanks around it. -/
def sheetValue (value : List Char) : String := .ofList (trimBy isSheetBlank value)

/-- The name and the value in a part of a stylesheet, if it declares something. -/
def declared? (part : List Char) : Option (String × String) :=
  let part := part.dropWhile isSheetBlank
  match (part.dropWhile isNameChar).dropWhile isSheetBlank with
  | ':' :: value => some (.ofList (part.takeWhile isNameChar), sheetValue value)
  | _ => none

/-- What a stylesheet declares, part by part; quoted texts and comments are parts like others. -/
def declarations (css : List Char) : List (String × String) :=
  (css.splitOnP endsPart).filterMap declared?

/-- A text without a semicolon and without braces. -/
def IsPlain (text : String) : Prop := ∀ c ∈ text.toList, endsPart c = false

instance (text : String) : Decidable (IsPlain text) :=
  inferInstanceAs (Decidable (∀ c ∈ text.toList, endsPart c = false))

/-- A text that can be the name of a property, or the beginning of one. -/
def IsName (text : String) : Prop := text ≠ "" ∧ ∀ c ∈ text.toList, isNameChar c = true

instance (text : String) : Decidable (IsName text) :=
  inferInstanceAs (Decidable (text ≠ "" ∧ ∀ c ∈ text.toList, isNameChar c = true))

variable {a b name rest : String} {cs : List Char} {c : Char}

theorem isPlain_append : IsPlain (a ++ b) ↔ IsPlain a ∧ IsPlain b := by
  rw [IsPlain, String.toList_append, List.forall_mem_append]
  rfl

theorem isNameChar_iff :
    isNameChar c = true ↔ isSheetBlank c = false ∧ endsPart c = false ∧ c ≠ ':' := by
  simp [isNameChar, and_assoc]

theorem IsName.isPlain (h : IsName name) : IsPlain name :=
  fun c hc => (isNameChar_iff.1 (h.2 c hc)).2.1

private theorem declarations_append_cons {d : Char} (hd : endsPart d = true) (cs ds : List Char) :
    declarations (cs ++ d :: ds) = declarations cs ++ declarations ds := by
  rw [declarations, List.splitOnP_append_cons _ _ hd, List.filterMap_append]
  rfl

theorem declarations_of_isPlain (h : IsPlain a) :
    declarations a.toList = (declared? a.toList).toList := by
  rw [declarations, List.splitOnP_eq_singleton h, List.filterMap_cons, List.filterMap_nil]
  cases declared? a.toList <;> rfl

theorem declarations_blank_cons (hc : isSheetBlank c = true) (cs : List Char) :
    declarations (c :: cs) = declarations cs := by
  have hend : endsPart c = false := by
    have hblanks : ∀ c ∈ [' ', '\n', '\t', '\r', '\x0c'], endsPart c = false := by decide
    exact hblanks c (List.contains_iff_mem.1 hc)
  have hread (part : List Char) : declared? (c :: part) = declared? part := by
    rw [declared?, declared?, List.dropWhile_cons_of_pos hc]
  -- The blank goes to the first part, which is read without it.
  rw [declarations, declarations, List.splitOnP_cons_eq_if_modifyHead, hend,
    if_neg Bool.false_ne_true]
  cases hparts : cs.splitOnP endsPart with
  | nil => exact absurd hparts (List.splitOnP_ne_nil _ _)
  | cons part parts => rw [List.modifyHead_cons, List.filterMap_cons, List.filterMap_cons, hread]

theorem declarations_indent (cs : List Char) :
    declarations (' ' :: ' ' :: cs) = declarations cs := by
  rw [declarations_blank_cons (by decide), declarations_blank_cons (by decide)]

/-- A line that ends with a semicolon or a brace declares what it declares on its own. -/
theorem declarations_line {d : Char} (hd : endsPart d = true) (cs ds : List Char) :
    declarations (cs ++ d :: '\n' :: ds) = declarations cs ++ declarations ds := by
  rw [declarations_append_cons hd, declarations_blank_cons (by decide)]

theorem declared?_name_append (hname : IsName name) :
    declared? (name.toList ++ cs) = match (cs.dropWhile isNameChar).dropWhile isSheetBlank with
      | ':' :: value => some (.ofList (name.toList ++ cs.takeWhile isNameChar), sheetValue value)
      | _ => none := by
  have hstart : (name.toList ++ cs).dropWhile isSheetBlank = name.toList ++ cs := by
    have hne : name.toList ≠ [] := fun h => hname.1 (String.toList_eq_nil_iff.1 h)
    obtain ⟨c, more, hmore⟩ := List.exists_cons_of_ne_nil hne
    have hc : isNameChar c = true := hname.2 c (by rw [hmore]; exact List.mem_cons_self)
    rw [hmore]
    exact List.dropWhile_cons_of_neg (by rw [(isNameChar_iff.1 hc).1]; decide)
  rw [declared?, hstart, List.dropWhile_append_of_pos hname.2, List.takeWhile_append_of_pos hname.2]

theorem declarations_declaration (hname : IsName name) (hplain : IsPlain a) :
    declarations (name ++ ": " ++ a).toList = [(name, sheetValue a.toList)] := by
  have hpart : IsPlain (name ++ ": " ++ a) :=
    isPlain_append.2 ⟨isPlain_append.2 ⟨hname.isPlain, by decide⟩, hplain⟩
  have hchars : (name ++ ": " ++ a).toList = name.toList ++ ':' :: ' ' :: a.toList := by simp
  have hstop : (':' :: ' ' :: a.toList).dropWhile isNameChar = ':' :: ' ' :: a.toList := rfl
  have hcolon : (':' :: ' ' :: a.toList).dropWhile isSheetBlank = ':' :: ' ' :: a.toList := rfl
  have hempty : (':' :: ' ' :: a.toList).takeWhile isNameChar = [] := rfl
  have hvalue : sheetValue (' ' :: a.toList) = sheetValue a.toList := rfl
  rw [declarations_of_isPlain hpart, hchars, declared?_name_append hname]
  simp only [hstop, hcolon, hempty, hvalue, List.append_nil, String.ofList_toList,
    Option.toList_some]

private theorem prefix_of_mem_declarations {e : String × String} (hname : IsName name)
    (hplain : IsPlain rest) (he : e ∈ declarations (name ++ rest).toList) :
    name.toList <+: e.1.toList := by
  have hpart : IsPlain (name ++ rest) := isPlain_append.2 ⟨hname.isPlain, hplain⟩
  rw [declarations_of_isPlain hpart, Option.mem_toList, String.toList_append,
    declared?_name_append hname] at he
  split at he
  · obtain rfl := Option.some.inj he
    rw [String.toList_ofList]
    exact List.prefix_append _ _
  · cases he

/-- A part does not declare what begins in another way than the part does. -/
theorem filter_declarations_eq_nil {other : String} (hname : IsName name) (hplain : IsPlain rest)
    (hother : ¬ name.toList <+: other.toList ∧ ¬ other.toList <+: name.toList) {property : String}
    (hproperty : other.toList <+: property.toList) :
    (declarations (name ++ rest).toList).filter (·.1 == property) = [] := by
  refine List.filter_eq_nil_iff.2 fun e he heq => ?_
  have hprefix := prefix_of_mem_declarations hname hplain he
  rw [beq_iff_eq.1 heq] at hprefix
  exact (List.prefix_or_prefix_of_prefix hprefix hproperty).elim hother.1 hother.2

end SiteTemplate
