import SiteTemplate.Proofs.ExchangedGroups

/-!
# Attribute values in a skin

Quotation marks and angle brackets stand between tokens, so that a skin leaves those of a text where
they are. Of what it puts between them only fonts have such a character: the name of a font stands
in single quotation marks, whatever quotation marks surround the classes.
-/

namespace SiteTemplate

open ClassToken

namespace Skin

variable {s : Skin} {c : Char} {cs w : List Char}

theorem mem_of_mem_runs {e : Char × List Char} (h : e ∈ (runs cs).2) : e.1 ∈ cs ∧ e.2 ⊆ cs := by
  have hmem : ∀ x ∈ e.1 :: e.2, x ∈ cs := by
    intro x hx
    rw [← append_flatMap_runs cs]
    exact List.mem_append_right _ (List.mem_flatMap_of_mem h hx)
  exact List.forall_mem_cons.1 hmem

private theorem mem_wear_iff (h : c ∉ cs) : c ∈ s.wear cs ↔ ∃ run ∈ runsOf cs, c ∈ s.token run := by
  -- The delimiters are those of the text, which does not have the character.
  have hdelimiters : ∀ e ∈ (runs cs).2, c ≠ e.1 := by
    rintro e he rfl
    exact h (mem_of_mem_runs he).1
  have hmore : c ∈ ((runs cs).2.flatMap fun e => e.1 :: s.token e.2)
      ↔ ∃ e ∈ (runs cs).2, c ∈ s.token e.2 := by
    simp only [List.mem_flatMap, List.mem_cons]
    exact exists_congr fun e => and_congr_right fun he => or_iff_right (hdelimiters e he)
  simp only [runsOf, List.mem_cons, List.mem_map, exists_eq_or_imp, exists_exists_and_eq_and]
  rw [wear, List.mem_append, hmore]

private theorem subset_of_mem_runsOf (h : w ∈ runsOf cs) : w ⊆ cs := by
  rcases List.mem_cons.1 h with rfl | hmore
  · intro x hx
    rw [← append_flatMap_runs cs]
    exact List.mem_append_left _ hx
  · obtain ⟨e, he, rfl⟩ := List.mem_map.1 hmore
    exact (mem_of_mem_runs he).2

/-- The characters that hold markup together. -/
def markupChars : List Char := ['"', '\'', '<', '>']

/-- The utilities whose font is exchanged. -/
def fontUtilities : List (List Char) := ["font-[Inter]".toList, "font-[Poppins]".toList]

theorem mem_fontUtilities_iff {u : List Char} :
    u ∈ fontUtilities ↔ ∃ name, (Form.font name).IsProper ∧ (Form.font name).chars = u := by
  constructor
  · intro h
    rcases List.mem_pair.1 h with rfl | rfl
    · exact ⟨"Inter", List.mem_cons_self, rfl⟩
    · exact ⟨"Poppins", List.mem_pair.2 (.inr rfl), rfl⟩
  · rintro ⟨name, hname, rfl⟩
    rcases List.mem_pair.1 hname with rfl | rfl
    · exact List.mem_cons_self
    · exact List.mem_pair.2 (.inr rfl)

theorem not_mem_splitVariants (h : c ∉ w) : c ∉ (splitVariants w).1 := by
  intro hmem
  refine h ?_
  rw [← splitVariants_append w]
  exact List.mem_append_left _ hmem

private theorem token_of_fontUtility (hfont : s.font ≠ "") (h : (splitVariants w).2 ∈ fontUtilities)
    :
    s.token w = (splitVariants w).1 ++ ("font-['".toList ++ (s.font.toList ++ "']".toList)) := by
  obtain ⟨name, hname, hchars⟩ := mem_fontUtilities_iff.1 h
  exact token_eq_iff.2 (.exchanged hname hchars (if_neg hfont))

namespace KeepsGroups

private theorem not_mem_token (hs : s.KeepsGroups) (hc : c ∈ markupChars) (hw : c ∉ w)
    (h : (splitVariants w).2 ∉ fontUtilities) : c ∉ s.token w := by
  have hbecomes : s.Becomes w (s.token w) := token_eq_iff.1 rfl
  generalize s.token w = w' at hbecomes
  cases hbecomes with
  | @exchanged f v hf hchars hv =>
    refine List.not_mem_append (not_mem_splitVariants hw) fun hmem => ?_
    have hnoFont (name : String) : f ≠ .font name := by
      rintro rfl
      exact h (mem_fontUtilities_iff.2 ⟨name, hf, hchars⟩)
    have hplain : ∀ c ∈ markupChars, c ∉ classChars ∧ Text.isDecimalDigit c = false := by decide
    rcases hs.forall_mem_exchanged hf hv hnoFont c hmem with hclass | hdigit
    · exact (hplain c hc).1 hclass
    · rw [(hplain c hc).2] at hdigit
      cases hdigit
  | kept => exact hw

private theorem mem_token_iff (hs : s.KeepsGroups) (hfont : s.font ≠ "")
    (hname : ∀ c ∈ markupChars, c ∉ s.font.toList) (hc : c ∈ markupChars) (hw : c ∉ w) :
    c ∈ s.token w ↔ c = '\'' ∧ (splitVariants w).2 ∈ fontUtilities := by
  by_cases hutility : (splitVariants w).2 ∈ fontUtilities
  · have hquotes : ∀ c ∈ markupChars,
        (c ∈ "font-['".toList ↔ c = '\'') ∧ (c ∈ "']".toList ↔ c = '\'') := by decide
    rw [token_of_fontUtility hfont hutility]
    simp only [List.mem_append, not_mem_splitVariants hw, hname c hc, hquotes c hc, hutility,
      false_or, or_self, and_true]
  · exact iff_of_false (hs.not_mem_token hc hw hutility) fun h => hutility h.2

/-- A character of markup that a text does not have comes into it with a font, and it is a single
quotation mark. -/
theorem markup_mem_wear_iff (hs : s.KeepsGroups) (hfont : s.font ≠ "")
    (hname : ∀ c ∈ markupChars, c ∉ s.font.toList) (hc : c ∈ markupChars) (hcs : c ∉ cs) :
    c ∈ s.wear cs ↔ c = '\'' ∧ ∃ run ∈ runsOf cs, (splitVariants run).2 ∈ fontUtilities := by
  rw [mem_wear_iff hcs, ← exists_and_left]
  refine exists_congr fun run => ?_
  rw [and_left_comm]
  refine and_congr_right fun hrun => ?_
  have hcrun : c ∉ run := fun h => hcs (subset_of_mem_runsOf hrun h)
  exact hs.mem_token_iff hfont hname hc hcrun

end KeepsGroups

private theorem wear_attribute {q : Char} (hq : isDelimiter q = true) (cs : List Char) :
    s.wear ("<a class=".toList ++ q :: (cs ++ q :: ">".toList))
      = "<a class=".toList ++ q :: (s.wear cs ++ q :: ">".toList) := by
  have hopen : s.wear "<a class=".toList = "<a class=".toList := rfl
  have hclose : s.wear ">".toList = ">".toList := rfl
  rw [wear_append_delimiter hq, wear_append_delimiter hq, hopen, hclose]

end Skin

namespace Theme

variable {t t' : Theme} {c : Members} {skipped : List String}

private theorem exists_customized_nil (t : Theme) : ∃ t', t.customized [] = .ok (t', []) := by
  obtain ⟨t', ht'⟩ := exists_override t (x := {}) nofun
  exact ⟨t', customized_eq_ok_iff.2 ⟨{}, rfl, ht', rfl⟩⟩

theorem onlyRecolors_nil : Customization.OnlyRecolors [] where
  fonts := rfl
  colors := fun g => by cases g <;> exact nofun

private theorem font_builtin : ∀ t ∈ builtin,
    t.primaryFont ≠ "" ∧ ∀ c ∈ Skin.markupChars, c ∉ t.primaryFont.toList := by
  decide

end Theme

namespace ThemeRegistry

private theorem resolve_builtin_mem (name : Option String) :
    builtin.resolve name ∈ Theme.builtin := by
  obtain ⟨n, hn⟩ := builtin.exists_get?_resolve name
  have hmem : (n, builtin.resolve name) ∈ builtin.themes := Entries.mem_of_get?_eq_some hn
  have hthemes : builtin.themes.map (·.2) = Theme.builtin := rfl
  rw [← hthemes]
  exact List.mem_map_of_mem hmem

/-- A built-in theme leaves the quotation marks of an attribute in their places. It puts one of its
own between them if they are single ones and a class in the value names a font that is exchanged,
and in no other case. -/
theorem reskin_attribute (name : Option String) {q : Char} (hq : q = '"' ∨ q = '\'') {v : String}
    (hv : ∀ c ∈ v.toList, c ∉ Skin.markupChars) : ∃ w : String,
      builtin.reskin ("<a class=" ++ q.toString ++ v ++ q.toString ++ ">") name []
        = .ok ("<a class=" ++ q.toString ++ w ++ q.toString ++ ">")
      ∧ (q ∈ w.toList ↔ q = '\'' ∧ ∃ run ∈ Skin.runsOf v.toList,
        (splitVariants run).2 ∈ Skin.fontUtilities)
      ∧ '<' ∉ w.toList ∧ '>' ∉ w.toList := by
  have ht := resolve_builtin_mem name
  obtain ⟨t', hcustom⟩ := Theme.exists_customized_nil (builtin.resolve name)
  obtain ⟨s, hs, hkeeps⟩ := Theme.exists_keepsGroups ht Theme.onlyRecolors_nil hcustom
  have hfont : s.font = (builtin.resolve name).primaryFont := by
    obtain ⟨_, _, _, -, -, -, rfl⟩ := Skin.eq_of_ofTheme hs
    exact Theme.primaryFont_of_customized Theme.onlyRecolors_nil hcustom
  have hbuiltin := Theme.font_builtin _ ht
  rw [← hfont] at hbuiltin
  obtain ⟨w, hw⟩ : ∃ w : String, w.toList = s.wear v.toList := ⟨_, String.toList_ofList⟩
  have hmem {c : Char} (hc : c ∈ Skin.markupChars) : c ∈ w.toList
      ↔ c = '\'' ∧ ∃ run ∈ Skin.runsOf v.toList, (splitVariants run).2 ∈ Skin.fontUtilities := by
    rw [hw]
    exact hkeeps.markup_mem_wear_iff hbuiltin.1 hbuiltin.2 hc fun h => hv c h hc
  have hdelimiter : q ∈ Skin.markupChars ∧ Skin.isDelimiter q = true := by
    rcases hq with rfl | rfl <;> decide
  have hattribute (w : String) : ("<a class=" ++ q.toString ++ w ++ q.toString ++ ">").toList
      = "<a class=".toList ++ q :: (w.toList ++ q :: ">".toList) := by simp
  refine ⟨w, reskin_eq_ok_iff_wear.2 ⟨t', [], s, hcustom, hs, ?_⟩, hmem hdelimiter.1, ?_, ?_⟩
  · rw [hattribute, hattribute, Skin.wear_attribute hdelimiter.2, hw]
  · rw [hmem (by decide)]
    exact fun h => absurd h.1 (by decide)
  · rw [hmem (by decide)]
    exact fun h => absurd h.1 (by decide)

/-- A font in an attribute in single quotation marks. -/
theorem reskin_attribute_inter :
    (∀ c ∈ "p-4 md:font-[Inter]".toList, c ∉ Skin.markupChars) ∧ ∃ w : String,
      builtin.reskin "<a class='p-4 md:font-[Inter]'>" (some "cozy") []
        = .ok ("<a class='" ++ w ++ "'>") ∧ '\'' ∈ w.toList := by
  have hv : ∀ c ∈ "p-4 md:font-[Inter]".toList, c ∉ Skin.markupChars := by decide
  obtain ⟨w, hw, hquote, -, -⟩ := reskin_attribute (some "cozy") (.inr rfl) hv
  have hfont : ∃ run ∈ Skin.runsOf "p-4 md:font-[Inter]".toList,
      (splitVariants run).2 ∈ Skin.fontUtilities :=
    ⟨"md:font-[Inter]".toList, by decide, by decide⟩
  have hout : "<a class=" ++ '\''.toString ++ w ++ '\''.toString ++ ">"
      = "<a class='" ++ w ++ "'>" := by simp [← String.toList_inj]
  rw [hout] at hw
  exact ⟨hv, w, hw, hquote.2 ⟨rfl, hfont⟩⟩

/-- The value of an attribute in single quotation marks ends early after its font was exchanged. -/
theorem not_reskin_attribute_modern : ¬ ∃ w : String, '\'' ∉ w.toList
    ∧ builtin.reskin "<a class='font-[Inter]'>" (some "modern") []
      = .ok ("<a class='" ++ w ++ "'>") := by
  rintro ⟨w, hquote, hw⟩
  have hout : builtin.reskin "<a class='font-[Inter]'>" (some "modern") []
      = .ok "<a class='font-['Inter']'>" := rfl
  have hchars : ("<a class='" ++ "font-['Inter']" ++ "'>").toList
      = ("<a class='" ++ w ++ "'>").toList :=
    congrArg String.toList (Except.ok.inj (hout.symm.trans hw))
  simp only [String.toList_append, List.append_cancel_left_eq,
    List.append_cancel_right_eq] at hchars
  rw [← hchars] at hquote
  exact hquote (by decide)

end ThemeRegistry

end SiteTemplate
