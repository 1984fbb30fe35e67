import SiteTemplate.Proofs.AuthoredText
import SiteTemplate.Proofs.Rendering

/-!
# Forms across the seams of a rendered text

A rendered text is literals and values one after the other, and it is not cut again. No form stands
in a literal, and none in a value without brackets and braces. What remains are forms across seams:
the end of a literal, the values and literals after it, and the beginning of a later literal may
make a form together. Where no literal ends in the beginning of a form, nothing is left over.
-/

namespace SiteTemplate

section Concatenation

variable {α β : Type} {f : β → List α} {l : List β}

private theorem exists_of_isPrefix_flatMap {cs : List α} (hne : cs ≠ []) (h : cs <+: l.flatMap f) :
    ∃ between y after back, l = between ++ y :: after ∧ back ≠ [] ∧ back <+: f y
      ∧ cs = between.flatMap f ++ back := by
  induction l generalizing cs with
  | nil => exact absurd (List.prefix_nil.1 h) hne
  | cons x l ih =>
    obtain ⟨rest, hrest⟩ := h
    rw [List.flatMap_cons, List.append_eq_append_iff] at hrest
    rcases hrest with ⟨tail, hx, -⟩ | ⟨tail, rfl, htail⟩
    · exact ⟨[], x, l, cs, rfl, hne, ⟨tail, hx.symm⟩, rfl⟩
    · by_cases hnil : tail = []
      · subst hnil
        rw [List.append_nil] at hne ⊢
        exact ⟨[], x, l, f x, rfl, hne, List.prefix_rfl, rfl⟩
      · obtain ⟨between, y, after, back, rfl, hback, hy, rfl⟩ := ih hnil ⟨rest, htail.symm⟩
        exact ⟨x :: between, y, after, back, rfl, hback, hy, by simp⟩

/-- A text inside a concatenation stands in one of the parts, or starts in one and ends in a later
one. -/
theorem exists_of_isInfix_flatMap {cs : List α} (hne : cs ≠ []) (h : cs <:+: l.flatMap f) :
    (∃ x ∈ l, cs <:+: f x) ∨
      ∃ before x between y after front back, l = before ++ x :: (between ++ y :: after)
        ∧ front ≠ [] ∧ front <:+ f x ∧ back ≠ [] ∧ back <+: f y
        ∧ cs = front ++ (between.flatMap f ++ back) := by
  induction l with
  | nil => exact absurd (List.infix_nil.1 h) hne
  | cons x l ih =>
    rw [List.flatMap_cons, List.infix_append_iff_ne_nil] at h
    -- The text lies in the first part, in the others, or across the seam behind the first.
    rcases h with hx | hl | ⟨front, tail, hfront, htail, rfl, hx, hl⟩
    · exact .inl ⟨x, List.mem_cons_self, hx⟩
    · rcases ih hl with ⟨y, hy, hin⟩ | ⟨before, y, between, z, after, front, back, rfl, hspan⟩
      · exact .inl ⟨y, List.mem_cons_of_mem x hy, hin⟩
      · exact .inr ⟨x :: before, y, between, z, after, front, back, rfl, hspan⟩
    · obtain ⟨between, y, after, back, rfl, hback, hy, rfl⟩ := exists_of_isPrefix_flatMap htail hl
      exact .inr ⟨[], x, between, y, after, front, back, rfl, hfront, hx, hback, hy, rfl⟩

end Concatenation

namespace Placeholder

theorem Written.getLast?_chars (w : Written) :
    w.chars.getLast? = some '>' ∨ w.chars.getLast? = some '\x7d' := by
  cases w with
  | slot before path after =>
    right
    rw [chars_slot, ← List.append_assoc, ← List.append_assoc, ← List.append_assoc,
      List.getLast?_append_of_ne_nil _ (by simp)]
    rfl
  | data blanks key =>
    left
    rw [chars_data, ← List.append_assoc, ← List.append_assoc, ← List.append_assoc,
      List.getLast?_append_of_ne_nil _ (by simp)]
    rfl
  | _ => exact .inl rfl

theorem Written.mem_of_isPrefix {w : Written} {front : List Char} (hne : front ≠ [])
    (h : front <+: w.chars) : '<' ∈ front ∨ '\x7b' ∈ front := by
  obtain ⟨rest, hrest⟩ := h
  have hhead := w.head?_chars
  rw [← hrest, List.head?_append_of_ne_nil _ hne] at hhead
  exact hhead.imp List.mem_of_head? List.mem_of_head?

private theorem Written.mem_of_isSuffix {w : Written} {back : List Char} (hne : back ≠ [])
    (h : back <:+ w.chars) : '>' ∈ back ∨ '\x7d' ∈ back := by
  obtain ⟨rest, hrest⟩ := h
  have hlast := w.getLast?_chars
  rw [← hrest, List.getLast?_append_of_ne_nil _ hne] at hlast
  exact hlast.imp List.mem_of_getLast? List.mem_of_getLast?

/-- A text that ends in a beginning of a form. -/
def EndsInOpening (cs : List Char) : Prop :=
  ∃ (front : List Char) (w : Written), front ≠ [] ∧ front <:+ cs ∧ w.Proper ∧ front <+: w.chars

theorem pieces_append (cs rest : List Char)
    (h : ∀ i < cs.length, Form.read? (cs.drop i ++ rest) = none) :
    pieces (cs ++ rest) = cs.foldr pushChar (pieces rest) := by
  induction cs with
  | nil => rfl
  | cons c cs ih =>
    have hhead : Form.read? (c :: (cs ++ rest)) = none := h 0 (by simp)
    have htail : ∀ i < cs.length, Form.read? (cs.drop i ++ rest) = none := by
      intro i hi
      exact h (i + 1) (by simpa using hi)
    rw [List.cons_append, pieces_cons (Form.read?_eq_none_iff.1 hhead), ih htail, List.foldr_cons]

theorem pieces_around (a b : List Char) {w : Written} (hw : w.Proper) (ha : a ≠ []) (hb : b ≠ [])
    (hbefore : ∀ i < a.length, Form.read? (a.drop i ++ (w.chars ++ b)) = none)
    (hafter : ∀ i < b.length, Form.read? (b.drop i) = none) :
    pieces (a ++ (w.chars ++ b)) = [.literal a, .form w.form w.chars, .literal b] := by
  have hrest : pieces b = [.literal b] := by
    have happend := pieces_append b [] (by simpa using hafter)
    rw [List.append_nil, pieces_nil, foldr_pushChar hb (by simp)] at happend
    exact happend
  rw [pieces_append a _ hbefore, pieces_chars_append hw, hrest]
  exact foldr_pushChar ha (by simp [Piece.isLiteral])

end Placeholder

namespace Resolver

open Placeholder

variable {value : Placeholder → String} {text file : String}

/-- A value in which no form begins or ends. -/
def Plain (value : String) : Prop :=
  ∀ c ∈ ['<', '>', '\x7b', '\x7d'], c ∉ value.toList

instance (value : String) : Decidable (Plain value) :=
  List.decidableBAll (fun c => c ∉ value.toList) ['<', '>', '\x7b', '\x7d']

/-- A text that runs over a seam: it begins in a literal, goes on with the value after it, and ends
in a later literal. -/
def SpansValue (value : Placeholder → String) (segments : List Segment) (cs : List Char) : Prop :=
  ∃ before first p between last after front back,
    segments = before ++ .literal first :: .marker p :: (between ++ .literal last :: after)
      ∧ front ≠ [] ∧ front <:+ first.toList ∧ back ≠ [] ∧ back <+: last.toList
      ∧ cs = front ++ ((value p).toList
          ++ (between.flatMap (fun s => (segmentText value s).toList) ++ back))

private theorem not_isInfix_literal {a : String} (ha : .literal a ∈ segments text file)
    {w : Written}
    (hw : w.Proper) : ¬ w.chars <:+: a.toList := by
  obtain ⟨qs, p, rs, hps, hseg⟩ := exists_piece_of_mem_annotate ha
  cases p with
  | form f raw => cases hseg
  | literal cs =>
    obtain rfl := Segment.literal.inj hseg
    have hproper : (Piece.literal cs).Proper := proper_of_mem_pieces (by rw [hps]; simp)
    rw [String.toList_ofList]
    exact hproper.2 w hw

theorem exists_marker_of_literal_before {before after : List Segment} {a : String} {s : Segment}
    (h : segments text file = before ++ .literal a :: s :: after) : ∃ p, s = .marker p := by
  have hchain := isChain_annotate (isChain_apart_pieces text.toList) file {}
  rw [← segments, h, List.isChain_append_cons_cons] at hchain
  obtain ⟨-, hapart, -⟩ := hchain
  cases s with
  | marker p => exact ⟨p, rfl⟩
  | literal b => simp [Segment.marker?] at hapart

theorem exists_literal_of_mem (hplain : ∀ p ∈ inText text file, Plain (value p)) {s : Segment}
    (hs : s ∈ segments text file) {c : Char} (hc : c ∈ ['<', '>', '\x7b', '\x7d'])
    (hmem : c ∈ (segmentText value s).toList) : ∃ a, s = .literal a := by
  cases s with
  | literal a => exact ⟨a, rfl⟩
  | marker p => exact absurd hmem (hplain p (mem_inText_iff.2 hs) c hc)

theorem exists_literal_of_opening (hplain : ∀ p ∈ inText text file, Plain (value p)) {s : Segment}
    (hs : s ∈ segments text file) {w : Written} {front : List Char} (hne : front ≠ [])
    (hw : front <+: w.chars) (hsub : front ⊆ (segmentText value s).toList) :
    ∃ a, s = .literal a := by
  rcases Written.mem_of_isPrefix hne hw with hmem | hmem
  · exact exists_literal_of_mem hplain hs (by simp) (hsub hmem)
  · exact exists_literal_of_mem hplain hs (by simp) (hsub hmem)

private theorem exists_literal_of_closing (hplain : ∀ p ∈ inText text file, Plain (value p))
    {s : Segment}
    (hs : s ∈ segments text file) {w : Written} {back : List Char} (hne : back ≠ [])
    (hw : back <:+ w.chars) (hsub : back ⊆ (segmentText value s).toList) :
    ∃ a, s = .literal a := by
  rcases Written.mem_of_isSuffix hne hw with hmem | hmem
  · exact exists_literal_of_mem hplain hs (by simp) (hsub hmem)
  · exact exists_literal_of_mem hplain hs (by simp) (hsub hmem)

theorem spansValue_of_isInfix (hplain : ∀ p ∈ inText text file, Plain (value p)) {w : Written}
    (hw : w.Proper) (h : w.chars <:+: (fillIn value text file).1.toList) :
    SpansValue value (segments text file) w.chars := by
  rw [toList_fillIn] at h
  rcases exists_of_isInfix_flatMap w.chars_ne_nil h with
    ⟨s, hs, hin⟩ | ⟨before, x, between, y, after, front, back, hsegs, hfront, hx, hback, hy, hchars⟩
  · -- A form within one segment would be a form in a literal.
    obtain ⟨a, rfl⟩ :=
      exists_literal_of_opening hplain hs w.chars_ne_nil List.prefix_rfl hin.subset
    exact absurd hin (not_isInfix_literal hs hw)
  · have hmemx : x ∈ segments text file := by simp [hsegs]
    have hmemy : y ∈ segments text file := by simp [hsegs]
    have hopening : front <+: w.chars := ⟨_, hchars.symm⟩
    have hclosing : back <:+ w.chars := by
      rw [hchars, ← List.append_assoc]
      exact List.suffix_append _ _
    obtain ⟨first, rfl⟩ := exists_literal_of_opening hplain hmemx hfront hopening hx.subset
    obtain ⟨last, rfl⟩ := exists_literal_of_closing hplain hmemy hback hclosing hy.subset
    cases between with
    | nil =>
      obtain ⟨p, hp⟩ := exists_marker_of_literal_before hsegs
      cases hp
    | cons s between =>
      obtain ⟨p, rfl⟩ := exists_marker_of_literal_before hsegs
      refine ⟨before, first, p, between, last, after, front, back, hsegs, hfront, hx, hback, hy, ?_⟩
      rw [hchars, List.flatMap_cons, List.append_assoc]
      rfl

private theorem isInfix_of_spansValue {cs : List Char}
    (h : SpansValue value (segments text file) cs) :
    cs <:+: (fillIn value text file).1.toList := by
  obtain ⟨before, first, p, between, last, after, front, back, hsegs, -, ⟨a, ha⟩, -, ⟨b, hb⟩,
    rfl⟩ := h
  rw [toList_fillIn, hsegs]
  refine ⟨before.flatMap (fun s => (segmentText value s).toList) ++ a,
    b ++ after.flatMap (fun s => (segmentText value s).toList), ?_⟩
  simp [segmentText, ← ha, ← hb]

private theorem hasLeftover_fillIn_iff (hplain : ∀ p ∈ inText text file, Plain (value p)) :
    hasLeftover (fillIn value text file).1 = true
      ↔ ∃ w : Written, w.Proper ∧ SpansValue value (segments text file) w.chars := by
  rw [hasLeftover_iff]
  refine exists_congr fun w => and_congr_right fun hw => ?_
  exact ⟨spansValue_of_isInfix hplain hw, isInfix_of_spansValue⟩

/-- Where all values are plain, the text is rendered, and every form that occurs in it runs over a
seam, from one literal over a value into a later literal. So forms are left over exactly if one runs
over a seam, and there are none where no literal before a placeholder ends in the beginning of a
form. -/
theorem hasLeftover_render_iff (r : Resolver) (steps : List Step) (text file : String)
    (d : UserData) (filled : Members) (theme : Option Theme) {value : Placeholder → String}
    (hvalue : ∀ p ∈ inText text file, r.resolve steps p d "" filled theme = .ok (value p))
    (hplain : ∀ p ∈ inText text file, Plain (value p)) :
    ∃ out, r.render steps text file d filled theme = .ok (out, (inText text file).length)
      ∧ (∀ w : Written, w.Proper → w.chars <:+: out.toList →
        SpansValue value (segments text file) w.chars)
      ∧ (hasLeftover out = true
        ↔ ∃ w : Written, w.Proper ∧ SpansValue value (segments text file) w.chars)
      ∧ ((∀ before a p after, segments text file = before ++ .literal a :: .marker p :: after →
          ¬ EndsInOpening a.toList) →
        hasLeftover out = false) := by
  have hiff := hasLeftover_fillIn_iff hplain
  refine ⟨(fillIn value text file).1, render_eq_fillIn hvalue,
    fun w hw hin => spansValue_of_isInfix hplain hw hin, hiff, fun hclosed => ?_⟩
  by_contra hleft
  rw [Bool.not_eq_false] at hleft
  obtain ⟨w, hw, before, first, p, between, last, after, front, back, hsegs, hfront, hfirst, -, -,
    hchars⟩ := hiff.1 hleft
  exact hclosed before first p _ hsegs ⟨front, w, hfront, hfirst, hw, ⟨_, hchars.symm⟩⟩

/-- Markup around a text does not end in the beginning of a form. -/
theorem hasLeftover_render_heading :
    Plain "Siam Coffee" ∧ ¬ EndsInOpening "<h1>".toList ∧
    ∃ out, ({} : Resolver).render [fun _ => .resolved ⟨"Siam Coffee", ""⟩]
        "<h1><text/></h1>" "index.html" {} [] none = .ok (out, 1)
      ∧ hasLeftover out = false := by
  have hplain : Plain "Siam Coffee" := by decide
  have hclosed : ¬ EndsInOpening "<h1>".toList := by
    rintro ⟨front, w, hne, hfront, -, hbegin⟩
    have hwhole : front = "<h1>".toList := by
      have hmem := Written.mem_of_isPrefix hne hbegin
      simp only [String.reduceToList, List.suffix_cons_iff, List.suffix_nil] at hfront
      rcases hfront with rfl | rfl | rfl | rfl | rfl
      · rfl
      all_goals simp at hmem
    obtain ⟨rest, hrest⟩ := hbegin
    have hsecond : w.chars[1]? = some 'h' := by
      rw [← hrest, hwhole]
      rfl
    cases w <;> cases hsecond
  have hsegments : ∃ p, segments "<h1><text/></h1>" "index.html"
      = [.literal "<h1>", .marker p, .literal "</h1>"] := by
    have hpieces : pieces "<h1><text/></h1>".toList = [.literal "<h1>".toList,
        .form .text "<text/>".toList, .literal "</h1>".toList] :=
      pieces_around "<h1>".toList "</h1>".toList (w := .text) trivial (by simp) (by simp)
        (by decide) (by decide)
    rw [segments, hpieces]
    exact ⟨_, rfl⟩
  obtain ⟨q, hsegments⟩ := hsegments
  have hvalue (p : Placeholder) (_ : p ∈ inText "<h1><text/></h1>" "index.html") :
      ({} : Resolver).resolve [fun _ => .resolved ⟨"Siam Coffee", ""⟩] p {} "" [] none
        = .ok ((fun _ => "Siam Coffee") p) := rfl
  obtain ⟨out, hrender, -, -, hnone⟩ := hasLeftover_render_iff {}
    [fun _ => .resolved ⟨"Siam Coffee", ""⟩] "<h1><text/></h1>" "index.html" {} [] none
    hvalue fun _ _ => hplain
  have hcount : (inText "<h1><text/></h1>" "index.html").length = 1 := by
    rw [inText, hsegments]
    rfl
  rw [hcount] at hrender
  refine ⟨hplain, hclosed, out, hrender, hnone ?_⟩
  intro before a p after hsplit
  rw [hsegments] at hsplit
  rcases before with _ | ⟨s, _ | ⟨t, _ | ⟨u, before⟩⟩⟩
  · obtain rfl : "<h1>" = a := by simpa using List.head_eq_of_cons_eq hsplit
    exact hclosed
  all_goals simp at hsplit

/-- A value between braces may make a slot with them: it is left over, although the value is
plain. -/
theorem hasLeftover_render_slot_around_value :
    (∀ p ∈ inText "\x7b\x7b \x7b\x7b a \x7d\x7d \x7d\x7d" "index.html", ∃ value,
      ({} : Resolver).resolve [fun _ => .resolved ⟨"b", ""⟩] p {} "" [] none = .ok value
        ∧ Plain value) ∧
    ∃ out count, ({} : Resolver).render [fun _ => .resolved ⟨"b", ""⟩]
        "\x7b\x7b \x7b\x7b a \x7d\x7d \x7d\x7d" "index.html" {} [] none = .ok (out, count)
      ∧ hasLeftover out = true := by
  have hvalue : Plain "b" := by decide
  have hspace : ∀ c ∈ [' '], Text.isBlank c = true := by simp [Text.isBlank_space]
  have hslot (c : Char) (hc : isPathStart c = true) : (Written.slot [' '] [c] [' ']).Proper :=
    ⟨hspace, ⟨c, [], [], hc, by simp, by simp, rfl⟩, hspace⟩
  have hpieces : pieces "\x7b\x7b \x7b\x7b a \x7d\x7d \x7d\x7d".toList =
      [.literal "\x7b\x7b ".toList, .form (.slot ['a']) "\x7b\x7b a \x7d\x7d".toList,
        .literal " \x7d\x7d".toList] :=
    pieces_around "\x7b\x7b ".toList " \x7d\x7d".toList (hslot 'a' (by decide)) (by simp)
      (by simp) (by decide) (by decide)
  have hrender : ({} : Resolver).render [fun _ => .resolved ⟨"b", ""⟩]
      "\x7b\x7b \x7b\x7b a \x7d\x7d \x7d\x7d" "index.html" {} [] none
      = .ok (fillIn (fun _ => "b") "\x7b\x7b \x7b\x7b a \x7d\x7d \x7d\x7d" "index.html") :=
    render_eq_fillIn fun _ _ => rfl
  have hout : (fillIn (fun _ => "b") "\x7b\x7b \x7b\x7b a \x7d\x7d \x7d\x7d"
      "index.html").1.toList = (Written.slot [' '] ['b'] [' ']).chars := by
    rw [toList_fillIn, segments, hpieces]
    rfl
  exact ⟨fun _ _ => ⟨"b", rfl, hvalue⟩, _, _, hrender,
    hasLeftover_iff.2 ⟨_, hslot 'b' (by decide), hout ▸ List.infix_rfl⟩⟩

end Resolver

end SiteTemplate
