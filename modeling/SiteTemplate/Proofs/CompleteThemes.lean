import SiteTemplate.Proofs.FallbackClasses

/-!
# Complete themes and the colours they may hold

A theme is accepted when its ramps have all steps, all of their values are hexadecimal colours, and
its typography has a primary font and font sizes. A hexadecimal colour may have one line end behind
its digits, and nothing else is passed over: the accepted themes without such a line end are exactly
those in which every value is a hash sign with three or six digits.
-/

namespace SiteTemplate

open Text ClassToken

private theorem mem_hexDigits_iff {c : Char} : c ∈ hexDigits ↔ isHexDigit c = true := by
  have hdigits : ∀ c ∈ hexDigits, isHexDigit c = true := by decide
  exact ⟨hdigits c, mem_hexDigits⟩

/-- A hash sign with exactly three or exactly six hexadecimal digits behind it. -/
def IsHexCode (cs : List Char) : Prop :=
  ∃ ds, cs = '#' :: ds ∧ (ds.length = 3 ∨ ds.length = 6) ∧ ∀ d ∈ ds, d ∈ hexDigits

theorem IsHexCode.getLast?_ne {cs : List Char} (h : IsHexCode cs) : cs.getLast? ≠ some '\n' := by
  obtain ⟨ds, rfl, -, hdigits⟩ := h
  have hend : ∀ d ∈ '#' :: hexDigits, d ≠ '\n' := by decide
  intro hlast
  have hmem : '\n' ∈ '#' :: ds := List.mem_of_getLast? hlast
  rcases List.mem_cons.1 hmem with hsharp | hmem
  · exact absurd hsharp (by decide)
  · exact hend '\n' (List.mem_cons_of_mem _ (hdigits _ hmem)) rfl

theorem isHexColor_iff {color : String} : isHexColor color = true ↔
    IsHexCode color.toList ∨ ∃ code, IsHexCode code ∧ color.toList = code ++ ['\n'] := by
  constructor
  · intro h
    unfold isHexColor at h
    split at h
    · next cs hcs =>
      simp only [Bool.and_eq_true, Bool.or_eq_true, beq_iff_eq, atTextEnd_iff] at h
      obtain ⟨hlength, hend⟩ := h
      have hcode : IsHexCode ('#' :: cs.takeWhile isHexDigit) :=
        ⟨_, rfl, hlength, fun d hd => mem_hexDigits (List.mem_takeWhile_imp hd)⟩
      have hsplit : cs.takeWhile isHexDigit ++ cs.dropWhile isHexDigit = cs :=
        List.takeWhile_append_dropWhile
      rw [hcs]
      rcases hend with hnone | hline
      · rw [hnone, List.append_nil] at hsplit
        exact .inl (hsplit ▸ hcode)
      · rw [hline] at hsplit
        exact .inr ⟨_, hcode, congrArg ('#' :: ·) hsplit.symm⟩
    · cases h
  · -- Neither the end of the text nor a line end goes on with the digits.
    have hread {ds rest : List Char} (hlength : ds.length = 3 ∨ ds.length = 6)
        (hdigits : ∀ d ∈ ds, d ∈ hexDigits) (hrest : rest = [] ∨ rest = ['\n'])
        (hcolor : color.toList = '#' :: (ds ++ rest)) : isHexColor color = true := by
      have hrun : ∀ d ∈ ds, isHexDigit d = true := fun d hd => mem_hexDigits_iff.1 (hdigits d hd)
      have hstop : rest.head?.any isHexDigit = false := by rcases hrest with rfl | rfl <;> decide
      simp only [isHexColor, hcolor, takeWhile_append_of_stop hrun hstop,
        dropWhile_append_of_stop hrun hstop, atTextEnd_iff.2 hrest, Bool.and_true, Bool.or_eq_true,
        beq_iff_eq]
      exact hlength
    rintro (⟨ds, hcs, hlength, hdigits⟩ | ⟨code, ⟨ds, rfl, hlength, hdigits⟩, hcs⟩)
    · exact hread hlength hdigits (.inl rfl) (by rw [hcs, List.append_nil])
    · exact hread hlength hdigits (.inr rfl) hcs

theorem isHexCode_iff {color : String} : IsHexCode color.toList ↔
    isHexColor color = true ∧ color.toList.getLast? ≠ some '\n' := by
  rw [isHexColor_iff]
  constructor
  · exact fun h => ⟨.inl h, h.getLast?_ne⟩
  · rintro ⟨h | ⟨code, -, hcolor⟩, hlast⟩
    · exact h
    · exact absurd (by rw [hcolor, List.getLast?_concat]) hlast

namespace Theme

variable {t : Theme}

/-- What a complete theme has, given what is a colour: every step of every ramp, colours alone in
the ramps, a primary font that is not empty, and at least one font size. -/
structure CompleteWith (IsColor : String → Prop) (t : Theme) : Prop where
  steps : ∀ g, ∀ step ∈ Palette.steps, ∃ color, Entries.get? (t.colors.ramp g) step = some color
  colors : ∀ g, ∀ color ∈ Entries.values (t.colors.ramp g), IsColor color
  font : ∃ font, Entries.get? t.typography.fontFamily "primary" = some font ∧ font ≠ ""
  sizes : t.typography.fontSize ≠ []

theorem CompleteWith.imp {P Q : String → Prop} (h : t.CompleteWith P)
    (hPQ : ∀ g, ∀ color ∈ Entries.values (t.colors.ramp g), P color → Q color) :
    t.CompleteWith Q where
  steps := h.steps
  colors := fun g color hcolor => hPQ g color hcolor (h.colors g color hcolor)
  font := h.font
  sizes := h.sizes

private theorem primaryFont_ne_empty_iff : t.primaryFont ≠ "" ↔
    ∃ font, Entries.get? t.typography.fontFamily "primary" = some font ∧ font ≠ "" := by
  unfold primaryFont
  cases Entries.get? t.typography.fontFamily "primary" with
  | none => simp
  | some font => simp

theorem isComplete_iff : t.isComplete = true ↔ t.CompleteWith (isHexColor · = true) := by
  have hgroup (g : ColorGroup) : g ∈ ColorGroup.all := by cases g <;> decide
  simp only [isComplete, Bool.and_eq_true, List.all_eq_true, hgroup, forall_const, bne_iff_ne,
    primaryFont_ne_empty_iff, Bool.not_eq_true', List.isEmpty_eq_false_iff, Ramp.isComplete_iff,
    Entries.has, Option.isSome_iff_exists]
  constructor
  · rintro ⟨⟨hramps, hfont⟩, hsizes⟩
    exact ⟨fun g => (hramps g).1, fun g => (hramps g).2, hfont, hsizes⟩
  · intro h
    exact ⟨⟨fun g => ⟨h.steps g, h.colors g⟩, h.font⟩, h.sizes⟩

/-- A theme is accepted exactly if it is complete with hexadecimal colours, each of which may have
one line end behind it. Complete with hexadecimal colours alone are exactly those accepted themes in
which no colour ends with a line end. -/
theorem isComplete_decides_complete (t : Theme) :
    (t.isComplete = true ↔ t.CompleteWith fun color =>
      IsHexCode color.toList ∨ ∃ code, IsHexCode code ∧ color.toList = code ++ ['\n'])
    ∧ (t.CompleteWith (fun color => IsHexCode color.toList) ↔
      t.isComplete = true ∧ ∀ g, ∀ color ∈ Entries.values (t.colors.ramp g),
        color.toList.getLast? ≠ some '\n') := by
  rw [isComplete_iff]
  refine ⟨?_, ?_, ?_⟩
  · constructor
    · exact fun h => h.imp fun _ _ _ => isHexColor_iff.1
    · exact fun h => h.imp fun _ _ _ => isHexColor_iff.2
  · intro h
    refine ⟨h.imp fun _ _ _ hcode => (isHexCode_iff.1 hcode).1, fun g color hcolor => ?_⟩
    exact (isHexCode_iff.1 (h.colors g color hcolor)).2
  · rintro ⟨h, hlast⟩
    exact h.imp fun g color hcolor haccepted => isHexCode_iff.2 ⟨haccepted, hlast g color hcolor⟩

/-- A theme with one accent that ends with a line end. -/
def lineEndAccent : Theme :=
  { modern with
    colors := { modern.colors with accent := Entries.put 500 "#fff\n" modern.colors.accent } }

/-- A theme is accepted with a colour that is more than its digits. -/
theorem isComplete_lineEndAccent : lineEndAccent.isComplete = true
    ∧ Entries.get? lineEndAccent.colors.accent 500 = some "#fff\n"
    ∧ ¬ lineEndAccent.CompleteWith fun color => IsHexCode color.toList := by
  refine ⟨by decide +kernel, by decide, fun h => ?_⟩
  have hmem : "#fff\n" ∈ Entries.values (lineEndAccent.colors.ramp .accent) := by decide
  exact (h.colors .accent _ hmem).getLast?_ne (by decide)

end Theme

end SiteTemplate
