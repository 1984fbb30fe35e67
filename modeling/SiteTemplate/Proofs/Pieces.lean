import Mathlib.Data.List.Chain
import SiteTemplate.Placeholder.Form
import SiteTemplate.Placeholder.Segment
import SiteTemplate.Proofs.WrittenForm

/-!
# How a text is cut into pieces

Every text is empty, or starts with a written form, or starts with a character at which no form
stands. The cut follows these cases, and so do the proofs about it: the pieces make up the text,
no two literals follow each other, and no form stands anywhere in a literal.
-/

namespace SiteTemplate.Placeholder

open Text

@[simp] theorem pieces_nil : pieces [] = [] := by rw [pieces]

/-- A form at the start of a text is a piece of its own. -/
theorem pieces_chars_append {w : Written} (h : w.Proper) (rest : List Char) :
    pieces (w.chars ++ rest) = .form w.form w.chars :: pieces rest := by
  have hread := Form.read?_chars h rest
  cases hcs : w.chars ++ rest with
  | nil => exact absurd (List.append_eq_nil_iff.1 hcs).1 w.chars_ne_nil
  | cons c cs =>
    have hlen : (c :: cs).length = w.chars.length + rest.length := by
      rw [← hcs, List.length_append]
    have hpos : 0 < w.chars.length := List.length_pos_iff.2 w.chars_ne_nil
    rw [hcs] at hread
    rw [pieces, hread]
    dsimp only
    rw [if_pos (by omega), hlen, Nat.add_sub_cancel, ← hcs, List.take_left' rfl]

/-- A character at which no form stands belongs to a literal. -/
theorem pieces_cons {c : Char} {rest : List Char}
    (h : ∀ w : Written, w.Proper → ¬ w.chars <+: c :: rest) :
    pieces (c :: rest) = pushChar c (pieces rest) := by
  rw [pieces, Form.read?_eq_none_iff.2 h]

/-- Induction over a text from form to form and, between them, from character to character. -/
@[elab_as_elim]
theorem piecesInduction {motive : List Char → Prop} (nil : motive [])
    (form : ∀ (w : Written) (rest : List Char), w.Proper → motive rest → motive (w.chars ++ rest))
    (char : ∀ (c : Char) (rest : List Char),
      (∀ w : Written, w.Proper → ¬ w.chars <+: c :: rest) → motive rest → motive (c :: rest))
    (cs : List Char) : motive cs := by
  induction hn : cs.length using Nat.strongRecOn generalizing cs with
  | _ n ih =>
    subst hn
    cases hread : Form.read? cs with
    | some found =>
      obtain ⟨f, left⟩ := found
      obtain ⟨w, hw, -, rfl⟩ := Form.read?_eq_some_iff.1 hread
      have hpos : 0 < w.chars.length := List.length_pos_iff.2 w.chars_ne_nil
      exact form w _ hw (ih _ (by simp only [List.length_append]; omega) _ rfl)
    | none =>
      cases cs with
      | nil => exact nil
      | cons c rest =>
        exact char c rest (Form.read?_eq_none_iff.1 hread) (ih _ (by simp) rest rfl)

def Piece.isLiteral : Piece → Bool
  | .literal _ => true
  | .form _ _ => false

/-- A literal that is not empty and in which no form stands, or a form as it can be written. -/
def Piece.Proper : Piece → Prop
  | .literal cs => cs ≠ [] ∧ ∀ w : Written, w.Proper → ¬ w.chars <:+: cs
  | .form f raw => ∃ w : Written, w.Proper ∧ w.form = f ∧ w.chars = raw

/-- Not both of two pieces are literals. -/
def Piece.Apart (p q : Piece) : Prop := ¬ (p.isLiteral = true ∧ q.isLiteral = true)

theorem Piece.Proper.chars_ne_nil {p : Piece} (h : p.Proper) : p.chars ≠ [] := by
  cases p with
  | literal cs => exact h.1
  | form f raw =>
    obtain ⟨w, -, -, rfl⟩ := h
    exact w.chars_ne_nil

@[simp] theorem flatMap_chars_pushChar (c : Char) (ps : List Piece) :
    (pushChar c ps).flatMap Piece.chars = c :: ps.flatMap Piece.chars := by
  cases ps with
  | nil => rfl
  | cons p ps => cases p <;> rfl

/-- The pieces make up the text. -/
@[simp] theorem flatMap_chars_pieces (cs : List Char) : (pieces cs).flatMap Piece.chars = cs := by
  induction cs using piecesInduction with
  | nil => simp
  | form w rest hw ih => simp [pieces_chars_append hw, Piece.chars, ih]
  | char c rest hnone ih => rw [pieces_cons hnone, flatMap_chars_pushChar, ih]

private theorem isChain_apart_pushChar {c : Char} {ps : List Piece} (h : ps.IsChain Piece.Apart) :
    (pushChar c ps).IsChain Piece.Apart := by
  cases ps with
  | nil => exact .singleton _
  | cons p ps =>
    cases p with
    | literal cs =>
      cases ps with
      | nil => exact .singleton _
      | cons q qs => exact .cons_cons (List.isChain_cons_cons.1 h).1 (List.isChain_cons_cons.1 h).2
    | form f raw => exact .cons_cons (by simp [Piece.Apart, Piece.isLiteral]) h

/-- No two literals follow each other. -/
theorem isChain_apart_pieces (cs : List Char) : (pieces cs).IsChain Piece.Apart := by
  induction cs using piecesInduction with
  | nil => simp
  | form w rest hw ih =>
    rw [pieces_chars_append hw]
    exact List.isChain_cons.2 ⟨fun q _ => by simp [Piece.Apart, Piece.isLiteral], ih⟩
  | char c rest hnone ih =>
    rw [pieces_cons hnone]
    exact isChain_apart_pushChar ih

/-- Where no form starts at a character and none stands in the literal after it, none stands in
both together. -/
theorem Piece.Proper.literal_cons {c : Char} {cs : List Char} (more : List Char)
    (hstart : ∀ w : Written, w.Proper → ¬ w.chars <+: c :: (cs ++ more))
    (hrest : ∀ w : Written, w.Proper → ¬ w.chars <:+: cs) : (Piece.literal (c :: cs)).Proper := by
  refine ⟨List.cons_ne_nil _ _, fun w hw hin => ?_⟩
  rcases List.infix_cons_iff.1 hin with hpre | hin
  · exact hstart w hw (hpre.trans ⟨more, rfl⟩)
  · exact hrest w hw hin

/-- Every piece of a text is proper. -/
theorem proper_of_mem_pieces {cs : List Char} {p : Piece} (h : p ∈ pieces cs) : p.Proper := by
  induction cs using piecesInduction generalizing p with
  | nil => simp at h
  | form w rest hw ih =>
    rw [pieces_chars_append hw] at h
    rcases List.mem_cons.1 h with rfl | h
    · exact ⟨w, hw, rfl, rfl⟩
    · exact ih h
  | char c rest hnone ih =>
    have hjoin := flatMap_chars_pieces rest
    have hempty : ∀ w : Written, w.Proper → ¬ w.chars <:+: [] := fun w _ hin =>
      w.chars_ne_nil (List.infix_nil.1 hin)
    rw [pieces_cons hnone] at h
    cases hps : pieces rest with
    | nil =>
      rw [hps] at h hjoin
      obtain rfl := List.mem_singleton.1 h
      exact Piece.Proper.literal_cons rest hnone hempty
    | cons q qs =>
      rw [hps] at h hjoin ih
      cases q with
      | literal cs =>
        rcases List.mem_cons.1 h with rfl | h
        · have hcs := ih (p := .literal cs) List.mem_cons_self
          rw [← hjoin] at hnone
          exact Piece.Proper.literal_cons _ hnone hcs.2
        · exact ih (List.mem_cons_of_mem _ h)
      | form f raw =>
        rcases List.mem_cons.1 h with rfl | h
        · exact Piece.Proper.literal_cons rest hnone hempty
        · exact ih h

/-- A recogniser that does not ask for the character before a place finds its form where it reads
one at a place of the text. -/
theorem isSome_first?_iff {α : Type} {r : Recogniser α} {before : Option Char}
    (hr : ∀ (b b' : Option Char) (cs : List Char), r b cs = r b' cs) {cs : List Char} :
    (r.first? before cs).isSome = true ↔
      ∃ rest, rest <:+ cs ∧ rest ≠ [] ∧ (r none rest).isSome = true := by
  rw [Recogniser.isSome_first?_iff_exists_append]
  constructor
  · rintro ⟨u, v, rfl, hne, hsome⟩
    exact ⟨v, List.suffix_append _ _, hne, by rwa [hr none (u.getLast?.or before)]⟩
  · rintro ⟨rest, ⟨u, rfl⟩, hne, hsome⟩
    exact ⟨u, rest, rfl, hne, by rwa [hr _ none]⟩

/-- A text has leftovers exactly if a written form stands somewhere in it. -/
theorem hasLeftover_iff {text : String} :
    hasLeftover text = true ↔ ∃ w : Written, w.Proper ∧ w.chars <:+: text.toList := by
  simp only [hasLeftover, List.any_eq_true, Recogniser.occurs,
    isSome_first?_iff (r := Kind.recogniser _) fun _ _ _ => rfl]
  constructor
  · rintro ⟨k, -, rest, hsuf, -, hsome⟩
    obtain ⟨⟨f, left⟩, hread⟩ := Option.isSome_iff_exists.1 hsome
    obtain ⟨w, hw, -, rfl⟩ := Kind.exists_written_of_read? hread
    exact ⟨w, hw, List.infix_iff_prefix_suffix.2 ⟨_, List.prefix_append _ _, hsuf⟩⟩
  · rintro ⟨w, hw, before, after, htext⟩
    obtain ⟨k, hk, hread⟩ := List.exists_of_findSome?_eq_some (Form.read?_chars hw after)
    refine ⟨k, hk, w.chars ++ after, ⟨before, by simpa using htext⟩, ?_, ?_⟩
    · simp [w.chars_ne_nil]
    · exact Option.isSome_of_eq_some hread

end SiteTemplate.Placeholder
