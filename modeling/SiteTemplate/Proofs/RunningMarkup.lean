import SiteTemplate.Proofs.Segments
import SiteTemplate.Proofs.TagScan

/-!
# Running markup and a fresh reading

`State.reading` tells the state after a text from the text alone. Reading a further piece takes the
state after a text to the state after the text with the piece, wherever the text is cut. So the
context noted in a placeholder is the one that a fresh reading of the literals before it gives.
-/

namespace SiteTemplate

namespace Markup

private theorem lastBracket?_append (a b : List Char) :
    lastBracket? (a ++ b) =
      (lastBracket? b).or ((lastBracket? a).map fun found => (found.1, found.2 ++ b)) := by
  induction a with
  | nil => simp [lastBracket?]
  | cons c cs ih =>
    rw [List.cons_append, lastBracket?, ih, lastBracket?]
    cases lastBracket? b with
    | some found => rfl
    | none =>
      cases lastBracket? cs with
      | some found => rfl
      | none => by_cases hc : isBracket c = true <;> simp [hc]

theorem isBracket_of_lastBracket? {cs rest : List Char} {c : Char}
    (h : lastBracket? cs = some (c, rest)) : c = '<' ∨ c = '>' := by
  induction cs with
  | nil => cases h
  | cons d cs ih =>
    rw [lastBracket?] at h
    cases hcs : lastBracket? cs with
    | some found => exact ih (by rw [hcs] at h ⊢; exact h)
    | none =>
      rw [hcs, Option.none_or, Option.ite_none_right_eq_some] at h
      obtain ⟨hd, heq⟩ := h
      obtain ⟨rfl, -⟩ := Prod.mk.inj (Option.some.inj heq)
      simpa [isBracket] using hd

private theorem openTagAfter_append (o : Option (List Char)) (a b : List Char) :
    openTagAfter (openTagAfter o a) b = openTagAfter o (a ++ b) := by
  unfold openTagAfter
  rw [lastBracket?_append]
  cases hb : lastBracket? b with
  | some found =>
    obtain ⟨c, rest⟩ := found
    rcases isBracket_of_lastBracket? hb with rfl | rfl <;> rfl
  | none =>
    cases ha : lastBracket? a with
    | none => simp [Option.map_map, Function.comp_def]
    | some found =>
      obtain ⟨c, rest⟩ := found
      rcases isBracket_of_lastBracket? ha with rfl | rfl <;> rfl

private theorem lastChars_append (n : Nat) (a b : List Char) :
    lastChars n (lastChars n a ++ b) = lastChars n (a ++ b) := by
  simp only [lastChars, List.length_append, List.length_drop]
  rw [List.drop_append, List.drop_append, List.drop_drop, List.length_drop]
  congr 2 <;> omega

namespace State

/-- The state after a text. -/
def reading (cs : List Char) : State where
  stack := (tagsOf cs).foldl afterTag []
  pending := pendingOf cs
  openTag := openTagAfter none cs
  tail := lastChars snippetLength cs

@[simp] theorem reading_nil : reading [] = {} := by
  simp [reading, openTagAfter, lastBracket?, lastChars]

theorem feed_cons (s : State) (c : Char) (cs : List Char) :
    s.feed (c :: cs) =
      { stack := (tagsOf (s.pending ++ c :: cs)).foldl afterTag s.stack
        pending := pendingOf (s.pending ++ c :: cs)
        openTag := openTagAfter s.openTag (c :: cs)
        tail := lastChars snippetLength (s.tail ++ c :: cs) } := rfl

theorem feed_reading (a b : List Char) : (reading a).feed b = reading (a ++ b) := by
  cases b with
  | nil => rw [feed_nil, List.append_nil]
  | cons c cs =>
    obtain ⟨htags, hpending⟩ := tagsOf_append a (c :: cs)
    rw [feed_cons]
    simp only [reading]
    rw [openTagAfter_append, lastChars_append, ← hpending, htags, List.foldl_append]

/-- The states to which reading can lead. -/
inductive Reachable : State → Prop where
  | start : Reachable {}
  | feed {s : State} (h : Reachable s) (cs : List Char) : Reachable (s.feed cs)

private theorem Reachable.exists_reading {s : State} (h : Reachable s) : ∃ cs, s = reading cs := by
  induction h with
  | start => exact ⟨[], reading_nil.symm⟩
  | feed _ cs ih =>
    obtain ⟨before, rfl⟩ := ih
    exact ⟨before ++ cs, feed_reading before cs⟩

/-- Where a text is cut makes no difference to the state. -/
theorem Reachable.feed_feed {s : State} (h : Reachable s) (a b : List Char) :
    (s.feed a).feed b = s.feed (a ++ b) := by
  obtain ⟨before, rfl⟩ := h.exists_reading
  simp only [feed_reading, List.append_assoc]

end State

end Markup

namespace Placeholder

open Markup

/-- The characters that a piece adds to the markup. -/
def Piece.markup : Piece → List Char
  | .literal cs => cs
  | .form _ _ => []

/-- The characters that a segment adds to the markup. -/
def Segment.markup : Segment → List Char
  | .literal text => text.toList
  | .marker _ => []

@[simp] theorem markup_segment (c : Cursor) (file : String) (p : Piece) :
    (c.segment file p).markup = p.markup := by
  cases p <;> simp [Cursor.segment, Segment.markup, Piece.markup]

private theorem flatMap_markup_annotate (file : String) (c : Cursor) (ps : List Piece) :
    (annotate file c ps).flatMap Segment.markup = ps.flatMap Piece.markup := by
  induction ps generalizing c with
  | nil => rfl
  | cons p ps ih => simp [ih]

private theorem Cursor.markup_after {c : Cursor} (h : c.markup.Reachable) (ps : List Piece) :
    (c.after ps).markup = c.markup.feed (ps.flatMap Piece.markup) := by
  induction ps generalizing c with
  | nil => rfl
  | cons p ps ih =>
    cases p with
    | form f raw => exact ih (c := c.advance (.form f raw)) h
    | literal cs =>
      rw [after_cons, ih (c := c.advance (.literal cs)) (h.feed cs), List.flatMap_cons,
        ← h.feed_feed]
      rfl

/-- The context of every placeholder is the one after a fresh reading of the literals before it,
and from any state that reading can reach, two pieces lead where their concatenation leads. -/
theorem running_markup_eq_fresh_reading :
    (∀ (text file : String) (before after : List Segment) (p : Placeholder),
      segments text file = before ++ .marker p :: after →
        p.context = contextAfter (before.flatMap Segment.markup) file) ∧
    ∀ s : State, s.Reachable → ∀ a b : List Char, (s.feed a).feed b = s.feed (a ++ b) := by
  refine ⟨fun text file before after p h => ?_, fun s hs a b => hs.feed_feed a b⟩
  obtain ⟨qs, q, rs, -, rfl, hsegment⟩ := exists_piece_of_annotate h
  cases q with
  | literal cs => cases hsegment
  | form f raw =>
    cases hsegment
    rw [flatMap_markup_annotate, contextAfter]
    exact congrArg (·.context file) (Cursor.markup_after (c := {}) .start qs)

/-- A placeholder in a paragraph, and a tag that is spread over three pieces. -/
theorem running_markup_in_paragraph :
    (∃ (before after : List Segment) (p : Placeholder),
      segments "<p><tw/>" "index.html" = before ++ .marker p :: after ∧
        p.context = contextAfter (before.flatMap Segment.markup) "index.html") ∧
    ∃ s : State, s.Reachable ∧ s = State.feed {} "<b cl".toList ∧
      (s.feed "ass='x".toList).feed "'>".toList = s.feed ("ass='x".toList ++ "'>".toList) := by
  have hpieces : pieces "<p><tw/>".toList = [.literal "<p>".toList, .form .tw "<tw/>".toList] := by
    have hform := pieces_chars_append (w := .tw) trivial []
    rw [pieces_nil] at hform
    calc pieces "<p><tw/>".toList
        = pushChar '<' (pushChar 'p' (pushChar '>' (pieces (Written.tw.chars ++ [])))) := by
          rw [← pieces_cons (Form.read?_eq_none_iff.1 rfl),
            ← pieces_cons (Form.read?_eq_none_iff.1 rfl),
            ← pieces_cons (Form.read?_eq_none_iff.1 rfl)]
          rfl
      _ = [.literal "<p>".toList, .form .tw "<tw/>".toList] := by rw [hform]; rfl
  have hsegments : segments "<p><tw/>" "index.html" =
      [.literal "<p>"] ++ .marker
        { kind := .tw, position := 3, raw := "<tw/>"
          context := (({} : State).feed "<p>".toList).context "index.html" } :: [] := by
    rw [segments, hpieces]
    rfl
  exact ⟨⟨_, _, _, hsegments, running_markup_eq_fresh_reading.1 _ _ _ _ _ hsegments⟩,
    State.feed {} "<b cl".toList, .feed .start _, rfl,
    running_markup_eq_fresh_reading.2 _ (.feed .start _) _ _⟩

end Placeholder

end SiteTemplate
