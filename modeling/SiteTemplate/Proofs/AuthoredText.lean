import SiteTemplate.Proofs.Segments

/-!
# What an author writes is read back

An author writes literals, in which no character opens a form, and forms. Printed one after the
other and cut again, these items come back in order, each form with its kind and key. The key of a
`data` form may hold other forms and brackets of any sort.
-/

namespace SiteTemplate.Placeholder

open Text

namespace Written

def kind : Written → Kind
  | tw => .tw
  | text => .text
  | img => .img
  | data _ _ => .data
  | slot _ _ _ => .slot

/-- The key of a written form: that of a `data` form without the blanks around it, or the path of a
slot. -/
def key? : Written → Option String
  | data _ key => some (trimmed (.ofList key))
  | slot _ path _ => some (.ofList path)
  | _ => none

@[simp] theorem kind_form (w : Written) : w.form.kind = w.kind := by
  cases w <;> rfl

@[simp] theorem key?_form (w : Written) : w.form.key? = w.key? := by
  cases w with
  | data blanks key => simp [form, Form.key?, key?, trimmed]
  | _ => rfl

end Written

/-- Something that an author writes. -/
inductive Item where
  | literal (cs : List Char)
  | form (w : Written)

namespace Item

def chars : Item → List Char
  | literal cs => cs
  | form w => w.chars

def written? : Item → Option Written
  | literal _ => none
  | form w => some w

/-- A literal that is not empty and holds neither a left angle bracket nor a left brace, or a
properly written form. -/
def Proper : Item → Prop
  | literal cs => cs ≠ [] ∧ '<' ∉ cs ∧ '\x7b' ∉ cs
  | form w => w.Proper

def piece : Item → Piece
  | literal cs => .literal cs
  | form w => .form w.form w.chars

end Item

/-- Where no character opens a form, no form stands. -/
theorem not_chars_isPrefix_cons {c : Char} {rest : List Char} (hangle : c ≠ '<')
    (hbrace : c ≠ '\x7b') (w : Written) : ¬ w.chars <+: c :: rest := by
  rintro ⟨left, heq⟩
  have hhead := congrArg List.head? heq
  rw [List.head?_append_of_ne_nil _ w.chars_ne_nil] at hhead
  rcases w.head?_chars with h | h
  · exact hangle (Option.some.inj (hhead.symm.trans h))
  · exact hbrace (Option.some.inj (hhead.symm.trans h))

theorem pieces_literal_append {cs : List Char} (hangle : '<' ∉ cs) (hbrace : '\x7b' ∉ cs)
    (rest : List Char) : pieces (cs ++ rest) = cs.foldr pushChar (pieces rest) := by
  induction cs with
  | nil => rfl
  | cons c cs ih =>
    rw [List.mem_cons, not_or] at hangle hbrace
    rw [List.cons_append, pieces_cons fun w _ =>
      not_chars_isPrefix_cons (Ne.symm hangle.1) (Ne.symm hbrace.1) w]
    rw [ih hangle.2 hbrace.2, List.foldr_cons]

theorem foldr_pushChar {cs : List Char} (hne : cs ≠ []) {ps : List Piece}
    (hps : ∀ p ∈ ps.head?, p.isLiteral = false) : cs.foldr pushChar ps = .literal cs :: ps := by
  induction cs with
  | nil => exact absurd rfl hne
  | cons c cs ih =>
    cases cs with
    | nil =>
      cases ps with
      | nil => rfl
      | cons p ps =>
        cases p with
        | literal cs => exact absurd (hps _ rfl) (by simp [Piece.isLiteral])
        | form f raw => rfl
    | cons d cs => rw [List.foldr_cons, ih (by simp)]; rfl

private theorem pieces_flatMap_chars {items : List Item} (hproper : ∀ i ∈ items, i.Proper)
    (hapart : items.IsChain fun i j => i.written?.isSome = true ∨ j.written?.isSome = true) :
    pieces (items.flatMap Item.chars) = items.map Item.piece := by
  induction items with
  | nil => simp
  | cons i items ih =>
    rw [List.forall_mem_cons] at hproper
    rw [List.isChain_cons] at hapart
    rw [List.flatMap_cons, List.map_cons]
    have hrest := ih hproper.2 hapart.2
    cases i with
    | form w => rw [Item.chars, pieces_chars_append hproper.1, hrest]; rfl
    | literal cs =>
      obtain ⟨hne, hangle, hbrace⟩ := hproper.1
      rw [Item.chars, pieces_literal_append hangle hbrace, hrest, foldr_pushChar hne]
      · rfl
      · intro p hp
        rw [List.head?_map] at hp
        obtain ⟨j, hj, rfl⟩ := Option.map_eq_some_iff.1 hp
        cases j with
        | literal ds => simpa [Item.written?] using hapart.1 _ hj
        | form w => rfl

/-- A list of items, each proper and no two literals among them adjacent, is read back from the
text that they print. -/
theorem segments_flatMap_chars {items : List Item} (hproper : ∀ i ∈ items, i.Proper)
    (hapart : items.IsChain fun i j => i.written?.isSome = true ∨ j.written?.isSome = true)
    (file : String) :
    (segments (.ofList (items.flatMap Item.chars)) file).map
        (fun s => (s.text, s.marker?.map fun p => (p.kind, p.raw, p.key))) =
      items.map fun i => (String.ofList i.chars,
        i.written?.map fun w => (w.kind, String.ofList w.chars, w.key?)) := by
  rw [segments, String.toList_ofList, pieces_flatMap_chars hproper hapart]
  generalize ({} : Cursor) = c
  clear hproper hapart
  induction items generalizing c with
  | nil => rfl
  | cons i items ih =>
    simp only [List.map_cons, annotate_cons, ih]
    cases i with
    | literal cs => rfl
    | form w => simp [Item.piece, Item.chars, Item.written?, Cursor.segment, Segment.marker?,
        Segment.text]

/-- A slot right before a brace, and a key that holds forms of its own. -/
theorem segments_slot_before_brace :
    let items : List Item := [.form (.slot [] ['a'] []), .literal ['\x7d', ' '],
      .form (.data [' '] " <tw/>\x7b\x7bb\x7d\x7d".toList)]
    (∀ i ∈ items, i.Proper) ∧
    (items.IsChain fun i j => i.written?.isSome = true ∨ j.written?.isSome = true) ∧
    (segments (.ofList (items.flatMap Item.chars)) "index.html").map
        (fun s => (s.text, s.marker?.map fun p => (p.kind, p.raw, p.key))) =
      [("\x7b\x7ba\x7d\x7d", some (.slot, "\x7b\x7ba\x7d\x7d", some "a")), ("\x7d ", none),
        ("<data key=\" <tw/>\x7b\x7bb\x7d\x7d\"/>", some (.data,
          "<data key=\" <tw/>\x7b\x7bb\x7d\x7d\"/>", some "<tw/>\x7b\x7bb\x7d\x7d"))] := by
  intro items
  have hpath : SlotPath ['a'] := ⟨'a', [], [], by decide, by simp, by simp, rfl⟩
  have hproper : ∀ i ∈ items, i.Proper := by
    simp only [items, List.forall_mem_cons]
    exact ⟨⟨by simp, hpath, by simp⟩, by simp [Item.Proper],
      ⟨by simp, by simp [isBlank_space], by simp, by simp⟩, by simp⟩
  have hapart : items.IsChain fun i j => i.written?.isSome = true ∨ j.written?.isSome = true := by
    simp [items, Item.written?]
  exact ⟨hproper, hapart, segments_flatMap_chars hproper hapart "index.html"⟩

end SiteTemplate.Placeholder
