import SiteTemplate.Placeholder.Form
import SiteTemplate.Proofs.Scanning

/-!
# Forms as an author writes them

`Written` holds the five forms with every choice that an author has: the blanks inside a form, the
key and the path. Reading a form at the start of a text is characterized by it: a form is read
exactly where a properly written form stands, and what is left is the text after it.
-/

namespace SiteTemplate.Placeholder

open Text

theorem isPathPart_of_isBlank {c : Char} (h : isBlank c = true) : isPathPart c = false := by
  have hparts : ∀ n ∈ blankCodes, (!isPathPart (Char.ofNat n)) = true := by decide +kernel
  simpa using forall_isBlank (p := fun c => !isPathPart c) hparts h

private theorem isPathChar_of_isPathStart {c : Char} (h : isPathStart c = true) :
    isPathChar c = true := by
  simp only [isPathStart, isPathChar, Bool.or_eq_true, beq_iff_eq] at h ⊢
  rcases h with (h | rfl) | rfl
  · simp [isWordChar_of_isAsciiLetter h]
  · decide
  · decide

theorem ne_dot_of_isPathChar {c : Char} (h : isPathChar c = true) : c ≠ '.' := by
  rintro rfl
  exact absurd h (by decide)

/-- The paths of slots: a segment with a proper start, then any number of segments after dots. -/
def SlotPath (path : List Char) : Prop :=
  ∃ (c : Char) (cs : List Char) (segments : List (List Char)),
    isPathStart c = true ∧ (∀ x ∈ cs, isPathChar x = true) ∧
    (∀ s ∈ segments, s ≠ [] ∧ ∀ x ∈ s, isPathChar x = true) ∧
    path = c :: cs ++ segments.flatMap ('.' :: ·)

/-- Splitting at dots undoes joining by dots. -/
theorem splitOnP_dot_append {first : List Char} {segments : List (List Char)}
    (hfirst : '.' ∉ first) (hsegments : ∀ s ∈ segments, '.' ∉ s) :
    (first ++ segments.flatMap ('.' :: ·)).splitOnP (· == '.') = first :: segments := by
  have noDot {s : List Char} (h : '.' ∉ s) : ∀ x ∈ s, (x == '.') = false := by
    intro x hx
    simpa using fun he : x = '.' => h (he ▸ hx)
  induction segments generalizing first with
  | nil => simpa using List.splitOnP_eq_singleton (noDot hfirst)
  | cons s segments ih =>
    rw [List.forall_mem_cons] at hsegments
    rw [List.flatMap_cons, List.cons_append,
      List.splitOnP_append_cons_of_forall_mem (noDot hfirst) _ (by decide),
      ih hsegments.1 hsegments.2]

/-- Every text is joined by dots from the segments into which it is split. -/
theorem exists_splitOnP_dot (cs : List Char) :
    ∃ first segments, cs.splitOnP (· == '.') = first :: segments ∧
      cs = first ++ segments.flatMap ('.' :: ·) ∧ '.' ∉ first ∧ ∀ s ∈ segments, '.' ∉ s := by
  induction cs with
  | nil => exact ⟨[], [], by simp⟩
  | cons c cs ih =>
    obtain ⟨first, segments, hsplit, hjoin, hfirst, hsegments⟩ := ih
    by_cases hc : c = '.'
    · subst hc
      refine ⟨[], first :: segments, ?_, ?_, List.not_mem_nil, ?_⟩
      · simp [List.splitOnP_cons_eq_if_modifyHead, hsplit]
      · simpa using hjoin
      · simpa using ⟨hfirst, hsegments⟩
    · refine ⟨c :: first, segments, ?_, ?_, ?_, hsegments⟩
      · simp [List.splitOnP_cons_eq_if_modifyHead, hsplit, hc]
      · simpa using hjoin
      · simpa using ⟨Ne.symm hc, hfirst⟩

theorem isPathPart_of_slotPath {path : List Char} (h : SlotPath path) :
    ∀ c ∈ path, isPathPart c = true := by
  obtain ⟨c, cs, segments, hc, hcs, hsegments, rfl⟩ := h
  intro x hx
  simp only [List.cons_append, List.mem_cons, List.mem_append, List.mem_flatMap] at hx
  rcases hx with rfl | hx | ⟨s, hs, rfl | hx⟩
  · simp [isPathPart, isPathChar_of_isPathStart hc]
  · simp [isPathPart, hcs x hx]
  · decide
  · simp [isPathPart, (hsegments s hs).2 x hx]

/-- The test for slot paths accepts, of the texts made of path characters and dots, exactly the
slot paths. -/
theorem slotPath_iff {path : List Char} :
    SlotPath path ↔ isSlotPath path = true ∧ ∀ c ∈ path, isPathPart c = true := by
  constructor
  · intro h
    refine ⟨?_, isPathPart_of_slotPath h⟩
    obtain ⟨c, cs, segments, hc, hcs, hsegments, rfl⟩ := h
    have hfirst : '.' ∉ c :: cs := by
      intro hmem
      rcases List.mem_cons.1 hmem with rfl | hmem
      · exact absurd hc (by decide)
      · exact ne_dot_of_isPathChar (hcs _ hmem) rfl
    have hrest : ∀ s ∈ segments, '.' ∉ s := fun s hs hmem =>
      ne_dot_of_isPathChar ((hsegments s hs).2 _ hmem) rfl
    have hne : ∀ s ∈ segments, s.isEmpty = false := fun s hs => by
      simpa using (hsegments s hs).1
    rw [isSlotPath, splitOnP_dot_append hfirst hrest]
    simpa [hc] using hne
  · rintro ⟨h, hparts⟩
    obtain ⟨first, segments, hsplit, hjoin, hfirst, hsegments⟩ := exists_splitOnP_dot path
    simp only [isSlotPath, hsplit, List.all_cons, Bool.and_eq_true, List.all_eq_true] at h
    obtain ⟨hstart, hne, hsegmentsNe⟩ := h
    cases first with
    | nil => simp at hne
    | cons c cs =>
      have hchar : ∀ x ∈ path, x ≠ '.' → isPathChar x = true := by
        intro x hx hxd
        simpa [isPathPart, hxd] using hparts x hx
      refine ⟨c, cs, segments, by simpa [hjoin] using hstart, ?_, ?_, hjoin⟩
      · intro x hx
        exact hchar x (by simp [hjoin, hx]) fun he => hfirst (List.mem_cons_of_mem _ (he ▸ hx))
      · intro s hs
        refine ⟨by simpa using hsegmentsNe s hs, fun x hx => ?_⟩
        have hmem : x ∈ path := by
          rw [hjoin]
          exact List.mem_append_right _ (List.mem_flatMap.2 ⟨s, hs, by simp [hx]⟩)
        exact hchar x hmem fun he => hsegments s hs (he ▸ hx)

/-- A form as it is written, with the blanks inside it. -/
inductive Written where
  | tw
  | text
  | img
  | data (blanks key : List Char)
  | slot (before path after : List Char)

namespace Written

def chars : Written → List Char
  | tw => "<tw/>".toList
  | text => "<text/>".toList
  | img => "<img/>".toList
  | data blanks key =>
    "<data".toList ++ (blanks ++ ("key=\"".toList ++ (key ++ "\"/>".toList)))
  | slot before path after =>
    "\x7b\x7b".toList ++ (before ++ (path ++ (after ++ "\x7d\x7d".toList)))

theorem chars_data (blanks key : List Char) : (data blanks key).chars =
    "<data".toList ++ (blanks ++ ("key=\"".toList ++ (key ++ "\"/>".toList))) := rfl

theorem chars_slot (before path after : List Char) : (slot before path after).chars =
    "\x7b\x7b".toList ++ (before ++ (path ++ (after ++ "\x7d\x7d".toList))) := rfl

def form : Written → Form
  | tw => .tw
  | text => .text
  | img => .img
  | data _ key => .data key
  | slot _ path _ => .slot path

/-- Whether blanks, key and path are as the form asks for. -/
def Proper : Written → Prop
  | data blanks key =>
    blanks ≠ [] ∧ (∀ c ∈ blanks, isBlank c = true) ∧ key ≠ [] ∧ '"' ∉ key
  | slot before path after =>
    (∀ c ∈ before, isBlank c = true) ∧ SlotPath path ∧ ∀ c ∈ after, isBlank c = true
  | _ => True

/-- A written form starts with an angle bracket or a brace. -/
theorem head?_chars (w : Written) : w.chars.head? = some '<' ∨ w.chars.head? = some '\x7b' := by
  cases w with
  | slot => exact .inr rfl
  | _ => exact .inl rfl

theorem chars_ne_nil (w : Written) : w.chars ≠ [] := by
  rcases w.head?_chars with h | h <;> exact fun hnil => by simp [hnil] at h

end Written

theorem readData?_data {blanks key : List Char} (h : (Written.data blanks key).Proper)
    (left : List Char) :
    Form.readData? ((Written.data blanks key).chars ++ left) = some (.data key, left) := by
  obtain ⟨hne, hblanks, hkey, hquote⟩ := h
  have hkeyChars : ∀ c ∈ key, (c != '"') = true := by
    intro c hc
    simpa using fun he : c = '"' => hquote (he ▸ hc)
  simp only [Written.chars_data, List.append_assoc, Form.readData?, after?_append,
    Option.bind_eq_bind, Option.bind_some]
  rw [afterSome?_append hne hblanks rfl]
  simp only [Option.bind_some, after?_append]
  rw [dropWhile_append_of_stop hkeyChars rfl, takeWhile_append_of_stop hkeyChars rfl]
  simp only [after?_append, Option.bind_some, List.isEmpty_iff, hkey, if_false]
  rfl

theorem exists_data_of_readData? {cs left : List Char} {f : Form}
    (h : Form.readData? cs = some (f, left)) :
    ∃ w : Written, w.Proper ∧ w.form = f ∧ cs = w.chars ++ left := by
  simp only [Form.readData?, Option.bind_eq_bind, Option.bind_eq_some_iff, after?_eq_some_iff] at h
  obtain ⟨cs₁, rfl, cs₂, hblanks, cs₃, rfl, cs₄, hend, hkey⟩ := h
  obtain ⟨blanks, hne, hall, rfl⟩ := afterSome?_eq_some hblanks
  split at hkey
  · cases hkey
  · next hkeyNe =>
    obtain ⟨rfl, rfl⟩ := Prod.mk.inj (Option.some.inj hkey)
    have hquote : '"' ∉ cs₃.takeWhile (· != '"') := fun hmem => by
      simpa using List.mem_takeWhile_imp hmem
    refine ⟨.data blanks (cs₃.takeWhile (· != '"')),
      ⟨hne, hall, by simpa using hkeyNe, hquote⟩, rfl, ?_⟩
    conv_lhs => rw [← List.takeWhile_append_dropWhile (p := (· != '"')) (l := cs₃), hend]
    simp only [Written.chars_data, List.append_assoc]

theorem readSlot?_slot {before path after : List Char}
    (h : (Written.slot before path after).Proper) (left : List Char) :
    Form.readSlot? ((Written.slot before path after).chars ++ left) = some (.slot path, left) := by
  obtain ⟨hbefore, hpath, hafter⟩ := h
  obtain ⟨htest, hparts⟩ := slotPath_iff.1 hpath
  have hstart : ∀ rest : List Char, (path ++ rest).head?.any isBlank = false := by
    obtain ⟨c, cs, segments, hc, -, -, rfl⟩ := hpath
    intro rest
    by_contra hblank
    simp only [List.cons_append, List.head?_cons, Option.any_some, Bool.not_eq_false] at hblank
    simpa [isPathPart_of_isBlank hblank] using hparts c (by simp)
  have hstop : (after ++ ("\x7d\x7d".toList ++ left)).head?.any isPathPart = false := by
    cases after with
    | nil => rfl
    | cons c after => simpa using isPathPart_of_isBlank (hafter c (by simp))
  have hclose (rest : List Char) : ("\x7d\x7d".toList ++ rest).head?.any isBlank = false := rfl
  simp only [Written.chars_slot, List.append_assoc, Form.readSlot?, after?_append,
    Option.bind_eq_bind, Option.bind_some, trimStart_append_of_stop hbefore (hstart _),
    dropWhile_append_of_stop hparts hstop, takeWhile_append_of_stop hparts hstop,
    trimStart_append_of_stop hafter (hclose left), htest, if_true]
  rfl

theorem exists_slot_of_readSlot? {cs left : List Char} {f : Form}
    (h : Form.readSlot? cs = some (f, left)) :
    ∃ w : Written, w.Proper ∧ w.form = f ∧ cs = w.chars ++ left := by
  simp only [Form.readSlot?, Option.bind_eq_bind, Option.bind_eq_some_iff,
    after?_eq_some_iff] at h
  obtain ⟨cs₁, rfl, cs₂, hend, hpath⟩ := h
  obtain ⟨before, hbefore, hcs₁⟩ := exists_blanks_append_trimStart cs₁
  obtain ⟨after, hafter, hcs₂⟩ :=
    exists_blanks_append_trimStart ((trimStart cs₁).dropWhile isPathPart)
  split at hpath
  · next htest =>
    obtain ⟨rfl, rfl⟩ := Prod.mk.inj (Option.some.inj hpath)
    refine ⟨.slot before ((trimStart cs₁).takeWhile isPathPart) after,
      ⟨hbefore, slotPath_iff.2 ⟨htest, fun c hc => List.mem_takeWhile_imp hc⟩, hafter⟩, rfl, ?_⟩
    rw [hend] at hcs₂
    conv_lhs =>
      rw [hcs₁, ← List.takeWhile_append_dropWhile (p := isPathPart) (l := trimStart cs₁), hcs₂]
    simp only [Written.chars_slot, List.append_assoc]
  · cases hpath

/-- A properly written form is read, whatever follows it. -/
theorem Form.read?_chars {w : Written} (h : w.Proper) (left : List Char) :
    Form.read? (w.chars ++ left) = some (w.form, left) := by
  cases w with
  | tw => rfl
  | text => rfl
  | img => rfl
  | data blanks key =>
    have htw : Kind.tw.read? ((Written.data blanks key).chars ++ left) = none := rfl
    have htext : Kind.text.read? ((Written.data blanks key).chars ++ left) = none := rfl
    have himg : Kind.img.read? ((Written.data blanks key).chars ++ left) = none := rfl
    have hdata : Kind.data.read? ((Written.data blanks key).chars ++ left)
        = some (.data key, left) := readData?_data h left
    simp only [Form.read?, Kind.all, List.findSome?_cons, htw, htext, himg, hdata]
    rfl
  | slot before path after =>
    have htw : Kind.tw.read? ((Written.slot before path after).chars ++ left) = none := rfl
    have htext : Kind.text.read? ((Written.slot before path after).chars ++ left) = none := rfl
    have himg : Kind.img.read? ((Written.slot before path after).chars ++ left) = none := rfl
    have hdata : Kind.data.read? ((Written.slot before path after).chars ++ left) = none := rfl
    have hslot : Kind.slot.read? ((Written.slot before path after).chars ++ left)
        = some (.slot path, left) := readSlot?_slot h left
    simp only [Form.read?, Kind.all, List.findSome?_cons, htw, htext, himg, hdata, hslot]
    rfl

/-- Where a form of some kind is read, a properly written form stands. -/
theorem Kind.exists_written_of_read? {k : Kind} {cs left : List Char} {f : Form}
    (h : k.read? cs = some (f, left)) :
    ∃ w : Written, w.Proper ∧ w.form = f ∧ cs = w.chars ++ left := by
  have hliteral {lit : String} {g : Form} (h : (after? lit cs).map (g, ·) = some (f, left)) :
      g = f ∧ cs = lit.toList ++ left := by
    obtain ⟨rest, hrest, heq⟩ := Option.map_eq_some_iff.1 h
    obtain ⟨rfl, rfl⟩ := Prod.mk.inj heq
    exact ⟨rfl, after?_eq_some_iff.1 hrest⟩
  cases k with
  | tw => exact ⟨.tw, trivial, hliteral h⟩
  | text => exact ⟨.text, trivial, hliteral h⟩
  | img => exact ⟨.img, trivial, hliteral h⟩
  | data => exact exists_data_of_readData? h
  | slot => exact exists_slot_of_readSlot? h

/-- A form is read exactly where a properly written form stands. -/
theorem Form.read?_eq_some_iff {cs left : List Char} {f : Form} :
    Form.read? cs = some (f, left) ↔
      ∃ w : Written, w.Proper ∧ w.form = f ∧ cs = w.chars ++ left := by
  constructor
  · intro h
    obtain ⟨k, -, hk⟩ := List.exists_of_findSome?_eq_some h
    exact Kind.exists_written_of_read? hk
  · rintro ⟨w, h, rfl, rfl⟩
    exact Form.read?_chars h left

theorem Form.read?_eq_none_iff {cs : List Char} :
    Form.read? cs = none ↔ ∀ w : Written, w.Proper → ¬ w.chars <+: cs := by
  constructor
  · rintro h w hw ⟨left, rfl⟩
    rw [Form.read?_chars hw] at h
    cases h
  · intro h
    by_contra hsome
    obtain ⟨⟨f, left⟩, hread⟩ := Option.ne_none_iff_exists'.1 hsome
    obtain ⟨w, hw, -, rfl⟩ := Form.read?_eq_some_iff.1 hread
    exact h w hw (List.prefix_append _ _)

end SiteTemplate.Placeholder
