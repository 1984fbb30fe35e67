import SiteTemplate.Proofs.Pieces

/-!
# The account that segments give of a text

The cursor runs over the pieces and adds up lengths and line ends. After any number of pieces it
stands where their characters end, so that the offset and the line noted in a placeholder are those
of its form in the text.
-/

namespace SiteTemplate.Placeholder

open Text

def Cursor.after (c : Cursor) (ps : List Piece) : Cursor := ps.foldl Cursor.advance c

@[simp] theorem Cursor.after_nil (c : Cursor) : c.after [] = c := rfl

@[simp] theorem Cursor.after_cons (c : Cursor) (p : Piece) (ps : List Piece) :
    c.after (p :: ps) = (c.advance p).after ps := rfl

@[simp] theorem newlines_append (a b : List Char) : newlines (a ++ b) = newlines a + newlines b :=
  List.count_append

theorem Cursor.position_after (c : Cursor) (ps : List Piece) :
    (c.after ps).position = c.position + (ps.flatMap Piece.chars).length := by
  induction ps generalizing c with
  | nil => rfl
  | cons p ps ih =>
    rw [after_cons, ih, List.flatMap_cons, List.length_append, ← Nat.add_assoc]
    rfl

private theorem Cursor.line_after (c : Cursor) (ps : List Piece) :
    (c.after ps).line = c.line + newlines (ps.flatMap Piece.chars) := by
  induction ps generalizing c with
  | nil => rfl
  | cons p ps ih =>
    rw [after_cons, ih, List.flatMap_cons, newlines_append, ← Nat.add_assoc]
    rfl

/-- Each segment is that of a piece, made where the pieces before it have led the cursor. -/
theorem exists_piece_of_annotate {file : String} {c : Cursor} {ps : List Piece}
    {before after : List Segment} {s : Segment} (h : annotate file c ps = before ++ s :: after) :
    ∃ qs p rs, ps = qs ++ p :: rs ∧ before = annotate file c qs ∧
      s = (c.after qs).segment file p := by
  induction before generalizing c ps with
  | nil =>
    cases ps with
    | nil => cases h
    | cons p ps => exact ⟨[], p, ps, rfl, rfl, (List.cons.inj h).1.symm⟩
  | cons b before ih =>
    cases ps with
    | nil => cases h
    | cons p ps =>
      obtain ⟨rfl, htail⟩ := List.cons.inj h
      obtain ⟨qs, q, rs, rfl, rfl, rfl⟩ := ih htail
      exact ⟨p :: qs, q, rs, rfl, rfl, rfl⟩

theorem exists_piece_of_mem_annotate {file : String} {c : Cursor} {ps : List Piece} {s : Segment}
    (h : s ∈ annotate file c ps) :
    ∃ qs p rs, ps = qs ++ p :: rs ∧ s = (c.after qs).segment file p := by
  obtain ⟨before, after, hsplit⟩ := List.append_of_mem h
  obtain ⟨qs, p, rs, hps, -, hs⟩ := exists_piece_of_annotate hsplit
  exact ⟨qs, p, rs, hps, hs⟩

/-- A placeholder of a text notes a form that stands there. -/
theorem exists_written_of_mem_segments {text file : String} {x : Placeholder}
    (hx : .marker x ∈ segments text file) :
    ∃ w : Written, w.Proper ∧ x.raw.toList = w.chars ∧ x.kind = w.form.kind
      ∧ x.key = w.form.key? := by
  obtain ⟨qs, q, rs, hps, hsegment⟩ := exists_piece_of_mem_annotate hx
  have hproper : q.Proper := proper_of_mem_pieces (by rw [hps]; simp)
  cases q with
  | literal cs => cases hsegment
  | form f raw =>
    obtain rfl := Segment.marker.inj hsegment
    obtain ⟨w, hw, rfl, rfl⟩ := hproper
    exact ⟨w, hw, String.toList_ofList, rfl, rfl⟩

@[simp] theorem text_segment (c : Cursor) (file : String) (p : Piece) :
    (c.segment file p).text = .ofList p.chars := by
  cases p <;> rfl

@[simp] theorem isSome_marker?_segment (c : Cursor) (file : String) (p : Piece) :
    (c.segment file p).marker?.isSome = !p.isLiteral := by
  cases p <;> rfl

private theorem join_text_annotate (file : String) (c : Cursor) (ps : List Piece) :
    String.join ((annotate file c ps).map (·.text)) = .ofList (ps.flatMap Piece.chars) := by
  apply String.toList_injective
  rw [String.toList_join, String.toList_ofList]
  induction ps generalizing c with
  | nil => rfl
  | cons p ps ih =>
    simp only [annotate_cons, List.map_cons, List.flatMap_cons, text_segment,
      String.toList_ofList, ih]

theorem isChain_annotate {ps : List Piece} (h : ps.IsChain Piece.Apart) (file : String)
    (c : Cursor) :
    (annotate file c ps).IsChain fun s t => s.marker?.isSome = true ∨ t.marker?.isSome = true := by
  induction ps generalizing c with
  | nil => exact .nil
  | cons p ps ih =>
    cases ps with
    | nil => exact .singleton _
    | cons q qs =>
      obtain ⟨hpq, hrest⟩ := List.isChain_cons_cons.1 h
      refine .cons_cons ?_ (ih hrest _)
      rw [isSome_marker?_segment, isSome_marker?_segment]
      cases hp : p.isLiteral with
      | false => exact .inl rfl
      | true => cases hq : q.isLiteral with
        | false => exact .inr rfl
        | true => exact absurd ⟨hp, hq⟩ hpq

private theorem position_le_of_mem_annotate {file : String} {c : Cursor} {ps : List Piece}
    {p : Placeholder} (h : p ∈ (annotate file c ps).filterMap (·.marker?)) :
    c.position ≤ p.position := by
  obtain ⟨s, hs, hp⟩ := List.mem_filterMap.1 h
  obtain ⟨qs, q, rs, -, rfl⟩ := exists_piece_of_mem_annotate hs
  cases q with
  | literal cs => cases hp
  | form f raw =>
    obtain rfl := Option.some.inj hp
    exact (c.position_after qs).symm ▸ Nat.le_add_right _ _

private theorem pairwise_position_annotate (file : String) (c : Cursor) (ps : List Piece) :
    ((annotate file c ps).filterMap (·.marker?)).Pairwise fun p q =>
      p.position + p.raw.length ≤ q.position := by
  induction ps generalizing c with
  | nil => exact .nil
  | cons p ps ih =>
    cases p with
    | literal cs => exact ih _
    | form f raw =>
      refine .cons (fun q hq => ?_) (ih _)
      have hle := position_le_of_mem_annotate hq
      simpa [Cursor.advance, Piece.chars] using hle

/-- What is noted in a placeholder is true of the text: its form stands at its offset, and the line
is that of the offset. -/
theorem marker_of_mem_segments {text file : String} {s : Segment} {p : Placeholder}
    (hs : s ∈ segments text file) (hp : s.marker? = some p) :
    s.text = p.raw ∧ (text.toList.drop p.position).take p.raw.length = p.raw.toList ∧
      p.line = lineAt text.toList p.position := by
  obtain ⟨qs, q, rs, hps, rfl⟩ := exists_piece_of_mem_annotate hs
  have htext := flatMap_chars_pieces text.toList
  rw [hps, List.flatMap_append, List.flatMap_cons] at htext
  cases q with
  | literal cs => cases hp
  | form f raw =>
    obtain rfl := Option.some.inj hp
    have hposition : (Cursor.after {} qs).position = (qs.flatMap Piece.chars).length := by
      simpa using Cursor.position_after {} qs
    refine ⟨rfl, ?_, ?_⟩
    · simp [hposition, ← htext, Piece.chars]
    · have hline := Cursor.line_after {} qs
      have hlineAt := lineAt_append (qs.flatMap Piece.chars)
        ((Piece.form f raw).chars ++ rs.flatMap Piece.chars) 0
      rw [htext, Nat.add_zero, lineAt_zero] at hlineAt
      simp only [hposition, hlineAt, hline]
      exact Nat.add_comm _ _

/-- The segments of a text make up the text, none is empty and no two literals follow each other.
Every placeholder stands where it says it does, one before the other, and no form stands in a
literal. -/
theorem segments_exact (text file : String) :
    String.join ((segments text file).map (·.text)) = text ∧
    (∀ s ∈ segments text file, s.text ≠ "") ∧
    ((segments text file).IsChain fun s t =>
      s.marker?.isSome = true ∨ t.marker?.isSome = true) ∧
    (∀ s ∈ segments text file, ∀ p, s.marker? = some p →
      s.text = p.raw ∧ (text.toList.drop p.position).take p.raw.length = p.raw.toList ∧
        p.line = lineAt text.toList p.position) ∧
    ((inText text file).Pairwise fun p q =>
      p.position < q.position ∧ p.position + p.raw.length ≤ q.position) ∧
    ∀ s ∈ segments text file, s.marker? = none →
      hasLeftover s.text = false ∧ ∀ w : Written, w.Proper → ¬ w.chars <:+: s.text.toList := by
  have hproper : ∀ s ∈ segments text file, ∃ c p, p.Proper ∧ s = Cursor.segment c file p := by
    intro s hs
    obtain ⟨qs, p, rs, hps, rfl⟩ := exists_piece_of_mem_annotate hs
    exact ⟨_, p, proper_of_mem_pieces (by rw [hps]; simp), rfl⟩
  have hne : ∀ s ∈ segments text file, s.text ≠ "" := by
    intro s hs hempty
    obtain ⟨c, p, hp, rfl⟩ := hproper s hs
    have hnil := congrArg String.toList hempty
    simp only [text_segment, String.toList_ofList, String.toList_empty] at hnil
    exact hp.chars_ne_nil hnil
  refine ⟨?_, hne, isChain_annotate (isChain_apart_pieces _) _ _,
    fun s hs p hp => marker_of_mem_segments hs hp, ?_, ?_⟩
  · rw [segments, join_text_annotate, flatMap_chars_pieces, String.ofList_toList]
  · refine (pairwise_position_annotate file {} _).imp_of_mem fun {p q} hp _ hle => ?_
    obtain ⟨s, hs, hsp⟩ := List.mem_filterMap.1 hp
    have hraw : p.raw ≠ "" := (marker_of_mem_segments hs hsp).1 ▸ hne s hs
    have hpos : 0 < p.raw.length := Nat.pos_of_ne_zero fun hzero =>
      hraw (String.length_eq_zero_iff.1 hzero)
    exact ⟨by omega, hle⟩
  · intro s hs hmarker
    obtain ⟨c, p, hp, rfl⟩ := hproper s hs
    cases p with
    | form f raw => cases hmarker
    | literal cs =>
      have hclear : ∀ w : Written, w.Proper →
          ¬ w.chars <:+: (c.segment file (.literal cs)).text.toList := by
        simpa [Piece.chars] using hp.2
      refine ⟨?_, hclear⟩
      by_contra hleft
      obtain ⟨w, hw, hin⟩ := hasLeftover_iff.1 (by simpa using hleft)
      exact hclear w hw hin

/-- The second of two forms starts where the first one ends. -/
theorem segments_exact_two_forms :
    ∃ s ∈ segments "<tw/><img/>" "index.html", ∃ p, s.marker? = some p ∧
      s.text = p.raw ∧ ("<tw/><img/>".toList.drop p.position).take p.raw.length = p.raw.toList ∧
        p.line = lineAt "<tw/><img/>".toList p.position ∧ p.position = 5 := by
  have hpieces : pieces "<tw/><img/>".toList =
      [.form .tw "<tw/>".toList, .form .img "<img/>".toList] := by
    have htw := pieces_chars_append (w := .tw) trivial (Written.img.chars ++ [])
    rwa [pieces_chars_append (w := .img) trivial, pieces_nil] at htw
  let p : Placeholder := { kind := .img, position := 5, raw := "<img/>", context :=
    ({} : Markup.State).context "index.html" }
  have hmem : Segment.marker p ∈ segments "<tw/><img/>" "index.html" := by
    rw [segments, hpieces]
    exact List.mem_cons_of_mem _ List.mem_cons_self
  obtain ⟨hraw, hplace, hline⟩ :=
    (segments_exact "<tw/><img/>" "index.html").2.2.2.1 _ hmem p rfl
  exact ⟨_, hmem, p, rfl, hraw, hplace, hline, rfl⟩

end SiteTemplate.Placeholder
