import SiteTemplate.Proofs.FloatText

/-!
# JSON text is read back

Escaped strings are read back character by character, and what stands between the parts of a text is
skipped. So a value is read back from its text in every layout, provided that its double-precision
numbers are finite, its whole numbers have not too many digits and its objects use no key twice.
-/

namespace SiteTemplate.Json

open Text

variable {cs gap rest : List Char} {n : Nat}

private theorem codeUnit?_control : ∀ n < 0x20,
    (match hexDigits 4 n with
      | [a, b, c, d] => codeUnit? a b c d == some n
      | _ => false) = true := by
  decide

theorem readUnits_short {e x : Char} (he : shortEscape? e = some x) (cs : List Char) :
    readUnits ('\\' :: e :: cs) = (readUnits cs).map fun (us, rest) => (x.toNat :: us, rest) := by
  have hunicode : e ≠ 'u' := by
    rintro rfl
    cases he
  rw [readUnits.eq_3 _ _ fun _ _ _ _ _ hu _ => hunicode hu, he]
  cases readUnits cs <;> rfl

private theorem readUnits_control {c : Char} (hc : c.toNat < 0x20) (cs : List Char) :
    readUnits ('\\' :: 'u' :: (hexDigits 4 c.toNat ++ cs))
      = (readUnits cs).map fun (us, rest) => (c.toNat :: us, rest) := by
  have hunit := codeUnit?_control c.toNat hc
  split at hunit
  · next a b c' d hdigits =>
    rw [hdigits, List.cons_append, List.cons_append, List.cons_append, List.cons_append,
      List.nil_append, readUnits, eq_of_beq hunit]
    cases readUnits cs <;> rfl
  · cases hunit

private theorem readUnits_plain {c : Char} (hquote : c ≠ '"') (hbackslash : c ≠ '\\')
    (hc : ¬ c.toNat < 0x20) (cs : List Char) :
    readUnits (c :: cs) = (readUnits cs).map fun (us, rest) => (c.toNat :: us, rest) := by
  rw [readUnits.eq_4 _ _ hquote (fun _ _ _ _ _ h _ => hbackslash h)
    (fun _ _ h _ => hbackslash h), if_neg (by simp [hbackslash]; omega)]
  cases readUnits cs <;> rfl

private theorem readUnits_escapeChar (c : Char) (cs : List Char) :
    readUnits (escapeChar c ++ cs)
      = (readUnits cs).map fun (us, rest) => (c.toNat :: us, rest) := by
  unfold escapeChar
  split_ifs with hquote hbackslash hnewline hreturn htab hback hfeed hcontrol
  · exact readUnits_short (by rw [hquote]; rfl) cs
  · exact readUnits_short (by rw [hbackslash]; rfl) cs
  · exact readUnits_short (by rw [hnewline]; rfl) cs
  · exact readUnits_short (by rw [hreturn]; rfl) cs
  · exact readUnits_short (by rw [htab]; rfl) cs
  · exact readUnits_short (by rw [hback]; rfl) cs
  · exact readUnits_short (by rw [hfeed]; rfl) cs
  · exact readUnits_control hcontrol cs
  · exact readUnits_plain hquote hbackslash hcontrol cs

private theorem readUnits_flatMap_escapeChar (cs rest : List Char) :
    readUnits (cs.flatMap escapeChar ++ '"' :: rest) = some (cs.map Char.toNat, rest) := by
  induction cs with
  | nil => rfl
  | cons c cs ih =>
    rw [List.flatMap_cons, List.append_assoc, readUnits_escapeChar, ih]
    rfl

theorem not_isSurrogate (c : Char) : ¬ (0xD800 ≤ c.toNat ∧ c.toNat < 0xE000) := by
  have hvalid := c.valid
  simp only [UInt32.isValidChar, Nat.isValidChar] at hvalid
  have hcode : c.toNat = c.val.toNat := rfl
  omega

private theorem joinSurrogates_map_toNat (cs : List Char) :
    joinSurrogates (cs.map Char.toNat) = cs := by
  have hchar (c : Char) : (if 0xD800 ≤ c.toNat && c.toNat < 0xE000 then '\uFFFD'
      else Char.ofNat c.toNat) = c := by
    rw [if_neg (by simpa using not_isSurrogate c), Char.ofNat_toNat]
  induction cs with
  | nil => rfl
  | cons c cs ih =>
    cases cs with
    | nil => rw [List.map_cons, List.map_nil, joinSurrogates, hchar]
    | cons c' cs =>
      have hpair : ¬ (0xD800 ≤ c.toNat && c.toNat < 0xDC00 && 0xDC00 ≤ c'.toNat
          && c'.toNat < 0xE000) = true := by
        have hsurrogate := not_isSurrogate c
        simp only [Bool.and_eq_true, decide_eq_true_eq]
        omega
      rw [List.map_cons, List.map_cons, joinSurrogates, if_neg hpair, hchar, ← List.map_cons, ih]

theorem writeString_append (s : String) (rest : List Char) :
    writeString s ++ rest = '"' :: (s.toList.flatMap escapeChar ++ '"' :: rest) := by
  simp [writeString]

/-- A string is read back from its text. -/
theorem readString_escaped (s : String) (rest : List Char) :
    readString (s.toList.flatMap escapeChar ++ '"' :: rest) = some (s, rest) := by
  rw [readString, readUnits_flatMap_escapeChar, Option.map_some]
  dsimp only
  rw [joinSurrogates_map_toNat, String.ofList_toList]

theorem skipGap_append (hgap : ∀ c ∈ gap, isGap c = true) (cs : List Char) :
    skipGap (gap ++ cs) = skipGap cs :=
  List.dropWhile_append_of_pos hgap

theorem skipGap_cons {c : Char} (hc : isGap c = false) (cs : List Char) :
    skipGap (c :: cs) = c :: cs :=
  List.dropWhile_cons_of_neg (by simp [hc])

/-- What is skipped in the gap before a text makes no difference. -/
theorem readValue_congr (h : skipGap cs = skipGap rest) : readValue n cs = readValue n rest := by
  cases n with
  | zero => rfl
  | succ n => rw [readValue, readValue, h]

theorem exists_of_readNumber (h : readNumber cs ≠ .error .broken) :
    ∃ c rest, isAsciiDigit c = true ∧ (cs = c :: rest ∨ cs = '-' :: c :: rest) := by
  have hwhole {cs : List Char} (hcs : readWhole cs ≠ none) :
      ∃ c rest, isAsciiDigit c = true ∧ cs = c :: rest := by
    cases cs with
    | nil => exact absurd rfl hcs
    | cons c rest =>
      refine ⟨c, rest, ?_, rfl⟩
      by_contra hdigit
      apply hcs
      have hzero : c ≠ '0' := by
        rintro rfl
        exact hdigit rfl
      rw [readWhole.eq_2 _ _ (by simpa using hzero), if_neg hdigit]
  have hread : readWhole (splitMinus cs).2 ≠ none := by
    intro hnone
    apply h
    simp only [readNumber, hnone]
  obtain ⟨c, rest, hc, hcs⟩ := hwhole hread
  refine ⟨c, rest, hc, ?_⟩
  unfold splitMinus at hcs
  split at hcs
  · exact .inr (hcs ▸ rfl)
  · exact .inl hcs

theorem not_mem_of_isAsciiDigit {c : Char} {others : List Char} (hc : isAsciiDigit c = true)
    (h : others.any isAsciiDigit = false) : c ∉ others := by
  intro hmem
  exact List.any_eq_false.1 h c hmem hc

private theorem readNamed_eq_none {c : Char} (hc : isAsciiDigit c = true) (rest : List Char) :
    readNamed (c :: rest) = none ∧ readNamed ('-' :: c :: rest) = none := by
  have hletter : c ∉ ['n', 't', 'f', 'N', 'I', '-'] := not_mem_of_isAsciiDigit hc rfl
  simp only [List.mem_cons, List.not_mem_nil, or_false, not_or, ne_comm (a := c)] at hletter
  obtain ⟨hn, ht, hf, hN, hI, hminus⟩ := hletter
  constructor
  · simp [readNamed, namedValues, List.isPrefixOf?, hn, ht, hf, hN, hI, hminus]
  · simp [readNamed, namedValues, List.isPrefixOf?, hI]

theorem readValue_scalar {c : Char} (hc : c ∉ [' ', '\t', '\n', '\r', '"', '[', '\x7b'])
    (rest : List Char) :
    readValue (n + 1) (c :: rest) = match readNamed (c :: rest) with
      | some found => .ok found
      | none => readNumber (c :: rest) := by
  simp only [List.mem_cons, List.not_mem_nil, or_false, not_or] at hc
  obtain ⟨hblank, htab, hnewline, hreturn, hquote, hbracket, hbrace⟩ := hc
  have hgap : isGap c = false := by simp [isGap, hblank, htab, hnewline, hreturn]
  rw [readValue, skipGap_cons hgap]
  split
  · next heq => exact absurd (List.cons.inj heq).1 hquote
  · next heq => exact absurd (List.cons.inj heq).1 hbracket
  · next heq => exact absurd (List.cons.inj heq).1 hbrace
  · rfl

/-- Where a number stands, a number is read. -/
theorem readValue_of_readNumber (h : readNumber cs ≠ .error .broken) :
    readValue (n + 1) cs = readNumber cs := by
  obtain ⟨c, rest, hc, hcs⟩ := exists_of_readNumber h
  obtain ⟨hnamed, hnamedMinus⟩ := readNamed_eq_none hc rest
  rcases hcs with rfl | rfl
  · rw [readValue_scalar (not_mem_of_isAsciiDigit hc rfl), hnamed]
  · rw [readValue_scalar (by decide), hnamedMinus]

theorem readValue_named (name : String) {v : Json} (h : (name, v) ∈ namedValues)
    (rest : List Char) : readValue (n + 1) (name.toList ++ rest) = .ok (v, rest) := by
  simp only [namedValues, List.mem_cons, Prod.mk.injEq, List.not_mem_nil, or_false] at h
  rcases h with ⟨rfl, rfl⟩ | ⟨rfl, rfl⟩ | ⟨rfl, rfl⟩ | ⟨rfl, rfl⟩ | ⟨rfl, rfl⟩ | ⟨rfl, rfl⟩ <;>
    exact (readValue_scalar (by decide) _).trans rfl

namespace Layout

/-- A layout whose texts are read back: the parts are set apart by gaps only, and finite numbers are
written as they are read. -/
structure IsRead (l : Layout) : Prop where
  afterComma : ∀ c ∈ l.afterComma, isGap c = true
  afterColon : ∀ c ∈ l.afterColon, isGap c = true
  number : ∀ x rest, x.isFinite = true → EndsNumber rest →
    readNumber (l.number x ++ rest) = .ok (.float x, rest)

theorem readNumber_numberText {x : Binary64} (hfinite : x.isFinite = true)
    (hrest : EndsNumber rest) : readNumber (numberText x ++ rest) = .ok (.float x, rest) := by
  rw [numberText, Binary64.isNaN_of_isFinite hfinite, if_neg Bool.false_ne_true, if_pos hfinite]
  exact Binary64.readNumber_text _ hfinite hrest

theorem isRead_compact : compact.IsRead :=
  ⟨List.forall_mem_nil _, List.forall_mem_nil _, fun _ _ => readNumber_numberText⟩

theorem isRead_indented : indented.IsRead :=
  ⟨List.forall_mem_nil _, List.forall_mem_singleton.2 rfl, fun _ _ => readNumber_numberText⟩

theorem isRead_saved : saved.IsRead := by
  refine ⟨List.forall_mem_nil _, List.forall_mem_singleton.2 rfl, fun x rest hfinite hrest => ?_⟩
  have htext : saved.number x = x.text .settings := if_pos hfinite
  rw [htext]
  exact Binary64.readNumber_text _ hfinite hrest

variable {l : Layout}

theorem isGap_lineBreak (l : Layout) (depth : Nat) : ∀ c ∈ l.lineBreak depth, isGap c = true := by
  unfold lineBreak
  split
  · simp
  · rw [List.forall_mem_cons]
    refine ⟨rfl, fun c hc => ?_⟩
    rw [List.eq_of_mem_replicate hc]
    rfl

theorem endsNumber_lineBreak (l : Layout) (depth : Nat) {c : Char} (hc : goesOn c = false)
    (rest : List Char) : EndsNumber (l.lineBreak depth ++ c :: rest) := by
  unfold lineBreak
  split
  · exact hc
  · rfl

theorem skipGap_lineBreak (l : Layout) (depth : Nat) {c : Char} (hc : isGap c = false)
    (rest : List Char) : skipGap (l.lineBreak depth ++ c :: rest) = c :: rest := by
  rw [skipGap_append (l.isGap_lineBreak depth), skipGap_cons hc]

end Layout

/-- Whether all double-precision numbers in a value are finite and no object has a key twice. -/
def isRegular : Json → Bool :=
  all fun
    | .float x => x.isFinite
    | .obj ms => decide (Entries.keys ms).Nodup
    | _ => true

theorem allOfItems_eq (p : Json → Bool) (items : List Json) :
    allOfItems p items = items.all (all p) := by
  induction items with
  | nil => rfl
  | cons v vs ih => rw [allOfItems, ih, List.all_cons]

theorem allOfMembers_eq (p : Json → Bool) (ms : Members) :
    allOfMembers p ms = ms.all fun m => all p m.2 := by
  induction ms with
  | nil => rfl
  | cons m ms ih => rw [allOfMembers, ih, List.all_cons]

theorem fits_int {n : Int} : (int n).fits = true ↔ n.natAbs < tenTo mostDigits := by
  simp only [fits, all, decide_eq_true_eq]

theorem fits_arr {items : List Json} : (arr items).fits = true ↔ ∀ v ∈ items, v.fits = true := by
  simp only [fits, all, allOfItems_eq, Bool.true_and, List.all_eq_true]

theorem fits_obj {ms : Members} : (obj ms).fits = true ↔ ∀ m ∈ ms, m.2.fits = true := by
  simp only [fits, all, allOfMembers_eq, Bool.true_and, List.all_eq_true]

/-- Whether a value is read back from the texts that are written for it. -/
def IsKept (v : Json) : Prop := v.isRegular = true ∧ v.fits = true

theorem isKept_int {n : Int} : (int n).IsKept ↔ n.natAbs < tenTo mostDigits :=
  (and_iff_right rfl).trans fits_int

private theorem isKept_arr {items : List Json} : (arr items).IsKept ↔ ∀ v ∈ items, v.IsKept := by
  simp only [IsKept, isRegular, fits, all, allOfItems_eq, Bool.true_and, List.all_eq_true]
  exact forall₂_and.symm

theorem isKept_obj {ms : Members} :
    (obj ms).IsKept ↔ (Entries.keys ms).Nodup ∧ ∀ m ∈ ms, m.2.IsKept := by
  simp only [IsKept, isRegular, fits, all, allOfMembers_eq, Bool.true_and, List.all_eq_true,
    Bool.and_eq_true, decide_eq_true_eq, and_assoc]
  exact and_congr_right fun _ => forall₂_and.symm

section Layout

variable {l : Layout} {v : Json}

theorem endsNumber_comma (rest : List Char) : EndsNumber (',' :: rest) := rfl

theorem readNumber_of_isKept_int {n : Int} (hv : (int n).IsKept) (hrest : EndsNumber rest) :
    readNumber (writeInt n ++ rest) = .ok (.int n, rest) := by
  rw [readNumber_writeInt n hrest, if_pos (isKept_int.1 hv)]

private theorem exists_write_eq_cons (hl : l.IsRead) (hv : v.IsKept) (depth : Nat) :
    ∃ c cs, write l depth v = c :: cs ∧ isGap c = false ∧ c ≠ ']' ∧ c ≠ '\x7d' := by
  have hnumber {cs : List Char} {w : Json} (h : readNumber (cs ++ []) = .ok (w, [])) :
      ∃ c rest, cs = c :: rest ∧ isGap c = false ∧ c ≠ ']' ∧ c ≠ '\x7d' := by
    rw [List.append_nil] at h
    obtain ⟨c, rest, hc, rfl | rfl⟩ := exists_of_readNumber (by rw [h]; simp)
    · have hother : c ∉ [' ', '\t', '\n', '\r', ']', '\x7d'] :=
        not_mem_of_isAsciiDigit hc rfl
      simp only [List.mem_cons, List.not_mem_nil, or_false, not_or] at hother
      obtain ⟨hblank, htab, hnewline, hreturn, hclosed⟩ := hother
      exact ⟨c, rest, rfl, by simp [isGap, hblank, htab, hnewline, hreturn], hclosed⟩
    · exact ⟨'-', c :: rest, rfl, by decide⟩
  cases v with
  | null => exact ⟨_, _, rfl, by decide⟩
  | bool b => cases b <;> exact ⟨_, _, rfl, by decide⟩
  | int n => exact hnumber (readNumber_of_isKept_int hv rfl)
  | float x => exact hnumber (hl.number x [] hv.1 rfl)
  | str s => exact ⟨_, _, rfl, by decide⟩
  | arr items => cases items <;> exact ⟨_, _, rfl, by decide⟩
  | obj ms => cases ms <;> exact ⟨_, _, rfl, by decide⟩

/-- Whether values are read back from their texts where the descent may go so many levels deep. -/
def ReadsBack (l : Layout) (n : Nat) : Prop :=
  ∀ v : Json, v.IsKept → ∀ depth rest, EndsNumber rest → (write l depth v).length < n →
    readValue n (write l depth v ++ rest) = .ok (v, rest)

theorem readItems_writeItem {depth : Nat} (hv : v.IsKept) (hn : ReadsBack l n)
    (hgap : ∀ c ∈ gap, isGap c = true) {tail : List Char} (htail : EndsNumber tail)
    (hlength : (write l depth v).length < n) :
    (∀ rest, skipGap tail = ']' :: rest →
        readItems (n + 1) (gap ++ (write l depth v ++ tail)) = .ok ([v], rest))
      ∧ ∀ rest vs left, skipGap tail = ',' :: rest → readItems n rest = .ok (vs, left) →
        readItems (n + 1) (gap ++ (write l depth v ++ tail)) = .ok (v :: vs, left) := by
  rw [readItems, readValue_congr (skipGap_append hgap _), hn v hv depth tail htail hlength]
  refine ⟨fun rest hclosed => ?_, fun rest vs left hcomma hmore => ?_⟩
  · simp only [bind, Except.bind, hclosed]
    rfl
  · simp only [bind, Except.bind, hcomma, hmore]
    rfl

private theorem Layout.IsRead.isGap_separator (hl : l.IsRead) (depth : Nat) :
    ∀ c ∈ l.afterComma ++ l.lineBreak depth, isGap c = true := by
  rw [List.forall_mem_append]
  exact ⟨hl.afterComma, l.isGap_lineBreak depth⟩

private theorem readItems_write (hl : l.IsRead) {vs : List Json} {depth : Nat}
    (hv : ∀ w ∈ v :: vs, w.IsKept) (hn : ∀ m ≤ n, ReadsBack l m)
    (hgap : ∀ c ∈ gap, isGap c = true) (closing : Nat) (rest : List Char)
    (hlength : (write l depth v ++ writeItems l depth vs).length < n) :
    readItems (n + 1) (gap ++ (write l depth v ++ (writeItems l depth vs
      ++ (l.lineBreak closing ++ ']' :: rest)))) = .ok (v :: vs, rest) := by
  rw [List.length_append] at hlength
  induction vs generalizing n v gap with
  | nil =>
    have hend := l.endsNumber_lineBreak closing (c := ']') rfl rest
    exact (readItems_writeItem (hv v List.mem_cons_self) (hn n le_rfl) hgap hend (by omega)).1 rest
      (l.skipGap_lineBreak closing rfl rest)
  | cons w vs ih =>
    obtain ⟨hkept, hothers⟩ := List.forall_mem_cons.1 hv
    simp only [writeItems, Layout.separator, List.cons_append, List.append_assoc,
      List.length_append, List.length_cons] at hlength ⊢
    obtain ⟨n, rfl⟩ : ∃ m, n = m + 1 := ⟨n - 1, by omega⟩
    have hmore := ih (n := n) hothers (fun m hm => hn m (by omega)) (hl.isGap_separator depth) (by omega)
    rw [List.append_assoc] at hmore
    exact (readItems_writeItem hkept (hn _ le_rfl) hgap (endsNumber_comma _) (by omega)).2 _ _ _
      (skipGap_cons rfl _) hmore

theorem readMembers_writeMember (hl : l.IsRead) {m : String × Json} {depth : Nat}
    (hm : m.2.IsKept) (hn : ReadsBack l n) (hgap : ∀ c ∈ gap, isGap c = true)
    {tail : List Char} (htail : EndsNumber tail) (hlength : (writeMember l depth m).length < n) :
    (∀ rest, skipGap tail = '\x7d' :: rest →
        readMembers (n + 1) (gap ++ (writeMember l depth m ++ tail)) = .ok ([m], rest))
      ∧ ∀ rest ms left, skipGap tail = ',' :: rest → readMembers n rest = .ok (ms, left) →
        readMembers (n + 1) (gap ++ (writeMember l depth m ++ tail)) = .ok (m :: ms, left) := by
  obtain ⟨key, v⟩ := m
  simp only [writeMember, List.append_assoc, List.length_append, List.cons_append,
    List.length_cons] at hlength ⊢
  have hread : readValue n (l.afterColon ++ (write l depth v ++ tail)) = .ok (v, tail) := by
    rw [readValue_congr (skipGap_append hl.afterColon _), hn v hm depth tail htail (by omega)]
  rw [writeString_append, readMembers, skipGap_append hgap, skipGap_cons rfl]
  simp only [readString_escaped, orBroken, bind, Except.bind, skipGap_cons (c := ':') rfl, hread]
  refine ⟨fun rest hclosed => ?_, fun rest ms left hcomma hmore => ?_⟩
  · simp only [hclosed]
    rfl
  · simp only [hcomma, hmore]
    rfl

private theorem readMembers_write (hl : l.IsRead) {m : String × Json} {ms : Members} {depth : Nat}
    (hv : ∀ e ∈ m :: ms, e.2.IsKept) (hn : ∀ k ≤ n, ReadsBack l k)
    (hgap : ∀ c ∈ gap, isGap c = true) (closing : Nat) (rest : List Char)
    (hlength : (writeMember l depth m ++ writeMembers l depth ms).length < n) :
    readMembers (n + 1) (gap ++ (writeMember l depth m ++ (writeMembers l depth ms
      ++ (l.lineBreak closing ++ '\x7d' :: rest)))) = .ok (m :: ms, rest) := by
  rw [List.length_append] at hlength
  induction ms generalizing n m gap with
  | nil =>
    have hend := l.endsNumber_lineBreak closing (c := '\x7d') rfl rest
    exact (readMembers_writeMember hl (hv m List.mem_cons_self) (hn n le_rfl) hgap hend
      (by omega)).1 rest
      (l.skipGap_lineBreak closing rfl rest)
  | cons e ms ih =>
    obtain ⟨hkept, hothers⟩ := List.forall_mem_cons.1 hv
    simp only [writeMembers, Layout.separator, List.cons_append, List.append_assoc,
      List.length_append, List.length_cons] at hlength ⊢
    obtain ⟨n, rfl⟩ : ∃ k, n = k + 1 := ⟨n - 1, by omega⟩
    have hmore := ih (n := n) hothers (fun k hk => hn k (by omega)) (hl.isGap_separator depth) (by omega)
    rw [List.append_assoc] at hmore
    exact (readMembers_writeMember hl hkept (hn _ le_rfl) hgap (endsNumber_comma _) (by omega)).2
      _ _ _ (skipGap_cons rfl _) hmore

private theorem readValue_write_arr (hl : l.IsRead) {items : List Json} (hv : (arr items).IsKept)
    (ih : ∀ m < n + 1, ReadsBack l m) (depth : Nat) (rest : List Char)
    (hlength : (write l depth (arr items)).length < n + 1) :
    readValue (n + 1) (write l depth (arr items) ++ rest) = .ok (arr items, rest) := by
  rw [isKept_arr] at hv
  cases items with
  | nil => rfl
  | cons v vs =>
    obtain ⟨c, cs, htext, hgap, hclosed, -⟩ :=
      exists_write_eq_cons hl (hv v List.mem_cons_self) (depth + 1)
    simp only [write, List.cons_append, List.append_assoc, List.nil_append, List.length_cons,
      List.length_append] at hlength ⊢
    obtain ⟨n, rfl⟩ : ∃ m, n = m + 1 := ⟨n - 1, by omega⟩
    have hshorter : (write l (depth + 1) v ++ writeItems l (depth + 1) vs).length < n := by
      rw [List.length_append]
      omega
    have hitems := readItems_write hl hv (fun m hm => ih m (by omega)) (List.forall_mem_nil _) depth
      rest hshorter
    rw [List.nil_append] at hitems
    rw [readValue, skipGap_cons rfl]
    simp only [skipGap_append (l.isGap_lineBreak _)]
    rw [htext, List.cons_append] at hitems ⊢
    rw [skipGap_cons hgap]
    split
    · next heq => exact absurd (List.cons.inj heq).1 hclosed
    · rw [hitems]
      rfl

private theorem readValue_write_obj (hl : l.IsRead) {ms : Members} (hv : (obj ms).IsKept)
    (ih : ∀ m < n + 1, ReadsBack l m) (depth : Nat) (rest : List Char)
    (hlength : (write l depth (obj ms)).length < n + 1) :
    readValue (n + 1) (write l depth (obj ms) ++ rest) = .ok (obj ms, rest) := by
  rw [isKept_obj] at hv
  cases ms with
  | nil => rfl
  | cons m ms =>
    obtain ⟨cs, htext⟩ : ∃ cs, writeMember l (depth + 1) m = '"' :: cs := by
      rw [writeMember, List.append_assoc, writeString_append]
      exact ⟨_, rfl⟩
    simp only [write, List.cons_append, List.append_assoc, List.nil_append, List.length_cons,
      List.length_append] at hlength ⊢
    obtain ⟨n, rfl⟩ : ∃ m, n = m + 1 := ⟨n - 1, by omega⟩
    have hshorter : (writeMember l (depth + 1) m ++ writeMembers l (depth + 1) ms).length < n := by
      rw [List.length_append]
      omega
    have hmembers := readMembers_write hl hv.2 (fun m hm => ih m (by omega))
      (List.forall_mem_nil _) depth rest hshorter
    rw [List.nil_append] at hmembers
    rw [readValue, skipGap_cons rfl]
    simp only [skipGap_append (l.isGap_lineBreak _)]
    rw [htext, List.cons_append] at hmembers ⊢
    rw [skipGap_cons rfl]
    split
    · next heq => exact absurd (List.cons.inj heq).1 (by decide)
    · rw [hmembers, Except.map, Entries.ofList_eq_self hv.1]

private theorem readsBack (hl : l.IsRead) (n : Nat) : ReadsBack l n := by
  -- Every level of the descent reads a part that is shorter than the text it stands in.
  induction n using Nat.strong_induction_on with
  | _ n ih =>
    intro v hv depth rest hrest hlength
    obtain ⟨n, rfl⟩ : ∃ m, n = m + 1 := ⟨n - 1, by omega⟩
    cases v with
    | null => exact readValue_named "null" (by simp [namedValues]) rest
    | bool b =>
      cases b
      · exact readValue_named "false" (by simp [namedValues]) rest
      · exact readValue_named "true" (by simp [namedValues]) rest
    | int k =>
      have hread := readNumber_of_isKept_int hv hrest
      rw [write, readValue_of_readNumber (by rw [hread]; simp), hread]
    | float x =>
      have hread := hl.number x rest hv.1 hrest
      rw [write, readValue_of_readNumber (by rw [hread]; simp), hread]
    | str s =>
      rw [write, writeString_append, readValue, skipGap_cons rfl]
      simp only [readString_escaped]
      rfl
    | arr items => exact readValue_write_arr hl hv ih depth rest hlength
    | obj ms => exact readValue_write_obj hl hv ih depth rest hlength

/-- A text that is written for a value is read as the value. -/
theorem parse_render (hl : l.IsRead) (hv : v.IsKept) : parse (v.render l) = .ok v := by
  have hread := readsBack hl ((write l 0 v).length + 1) v hv 0 [] rfl (Nat.lt_succ_self _)
  rw [List.append_nil] at hread
  simp only [parse, render, String.toList_ofList, hread]
  rfl

end Layout

end SiteTemplate.Json
