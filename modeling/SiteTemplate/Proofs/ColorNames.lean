import Mathlib.Data.List.TakeDrop
import SiteTemplate.Proofs.TokenParts

/-!
# Names of colours

A hexadecimal colour is named by its family and step in the palette, or else by its digits in
brackets. Either way a background of this name is a well-formed class that sets one property.
-/

namespace SiteTemplate

open Text ClassToken

/-- The hexadecimal digits. -/
def hexDigits : List Char := "0123456789abcdefABCDEF".toList

theorem mem_hexDigits {c : Char} (h : isHexDigit c = true) : c ∈ hexDigits := by
  have hcodes : ∀ n < 128, isHexDigit (Char.ofNat n) = true → Char.ofNat n ∈ hexDigits := by decide
  have hval : c.toNat = c.val.toNat := rfl
  have hsmall : c.toNat < 128 := by
    simp only [isHexDigit, isAsciiDigit, Bool.or_eq_true, Bool.and_eq_true, decide_eq_true_eq,
      Char.le_def, UInt32.le_iff_toNat_le] at h
    have h9 : '9'.val.toNat = 57 := rfl
    have hf : 'f'.val.toNat = 102 := rfl
    have hF : 'F'.val.toNat = 70 := rfl
    omega
  have hc := hcodes c.toNat hsmall
  rw [Char.ofNat_toNat] at hc
  exact hc h

theorem forall_isHexDigit {p : Char → Bool} (h : hexDigits.all p = true) {c : Char}
    (hc : isHexDigit c = true) : p c = true :=
  List.all_eq_true.1 h c (mem_hexDigits hc)

/-- A name as hexadecimal colours have it: a family and a step, or digits in brackets. -/
inductive IsColorName : String → Prop where
  | step {family : String × List String} {step : String} (hfamily : family ∈ Palette.families)
      (hstep : step ∈ colorSteps) : IsColorName (family.1 ++ "-" ++ step)
  | digits {ds : List Char} (hlength : ds.length = 3 ∨ ds.length = 6)
      (hdigits : ∀ c ∈ ds, isHexDigit c = true) :
      IsColorName (.ofList ('[' :: '#' :: (ds ++ [']'])))

private theorem isColorName_of_mem_names {color name : String} (h : (color, name) ∈ Palette.names) :
    IsColorName name := by
  rcases List.mem_append.1 h with hramp | hextra
  · obtain ⟨family, hfamily, hname⟩ := List.mem_flatMap.1 hramp
    obtain ⟨entry, hentry, heq⟩ := List.mem_map.1 hname
    have hsteps : ∀ n ∈ Palette.steps, toString n ∈ colorSteps := by decide
    cases heq
    exact .step hfamily (hsteps _ (List.of_mem_zip hentry).1)
  · obtain ⟨rfl, rfl⟩ : color = "#451a03" ∧ name = "amber-950" := by simpa using hextra
    have hamber : ("amber", Palette.amber) ∈ Palette.families := by simp [Palette.families]
    exact .step hamber (by decide : "950" ∈ colorSteps)

private theorem isBlank_of_isHexDigit {c : Char} (h : isHexDigit c = true) : isBlank c = false := by
  simpa using forall_isHexDigit (p := fun c => !isBlank c) (by decide) h

private theorem exists_trim_of_isHexColor {color : String} (h : isHexColor color = true) :
    ∃ ds, (ds.length = 3 ∨ ds.length = 6) ∧ (∀ c ∈ ds, isHexDigit c = true)
      ∧ trim color.toList = '#' :: ds := by
  unfold isHexColor at h
  split at h
  · next cs hcs =>
    simp only [Bool.and_eq_true, Bool.or_eq_true, beq_iff_eq] at h
    obtain ⟨hlength, hend⟩ := h
    have hdigits : ∀ c ∈ cs.takeWhile isHexDigit, isHexDigit c = true :=
      fun c hc => List.mem_takeWhile_imp hc
    have hsplit := (List.takeWhile_append_dropWhile (p := isHexDigit) (l := cs)).symm
    generalize cs.takeWhile isHexDigit = ds at *
    generalize cs.dropWhile isHexDigit = rest at *
    have hsharp : ∀ c ∈ '#' :: ds, isBlank c = false := by
      rw [List.forall_mem_cons]
      exact ⟨by decide, fun c hc => isBlank_of_isHexDigit (hdigits c hc)⟩
    refine ⟨ds, hlength, hdigits, ?_⟩
    rw [hcs, hsplit]
    match rest, hend with
    | [], _ => rw [List.append_nil, trim_eq_self hsharp]
    | [c], hc =>
      obtain rfl : c = '\n' := by simpa [atTextEnd] using hc
      exact trim_append_blank (List.cons_ne_nil _ _) hsharp (by decide)
  · cases h

theorem isColorName_colorName {color : String} (h : isHexColor color = true) :
    IsColorName (Palette.colorName color) := by
  obtain ⟨ds, hlength, hdigits, htrim⟩ := exists_trim_of_isHexColor h
  have hascii : ∀ c ∈ '#' :: ds, c.toNat < 128 := by
    rw [List.forall_mem_cons]
    refine ⟨by decide, fun c hc => ?_⟩
    simpa using forall_isHexDigit (p := fun c => decide (c.toNat < 128)) (by decide) (hdigits c hc)
  have hlower : ∀ c ∈ ds.map lowerChar, isHexDigit c = true := by
    rw [List.forall_mem_map]
    intro c hc
    exact forall_isHexDigit (p := fun c => isHexDigit (lowerChar c)) (by decide) (hdigits c hc)
  have hvalue : lowered (trimmed color) = .ofList ('#' :: ds.map lowerChar) := by
    rw [lowered, trimmed, String.toList_ofList, htrim, lower_eq_map hascii]
    rfl
  -- In lower case the digits are still digits, whether the palette has a name for them or not.
  rw [Palette.colorName, hvalue]
  cases hname : Palette.names.lookup (.ofList ('#' :: ds.map lowerChar)) with
  | some name => exact isColorName_of_mem_names (Entries.mem_of_get?_eq_some hname)
  | none =>
    have hbrackets : "[" ++ String.ofList ('#' :: ds.map lowerChar) ++ "]"
        = .ofList ('[' :: '#' :: (ds.map lowerChar ++ [']'])) := by
      apply String.toList_injective
      simp
    rw [Option.getD_none, hbrackets]
    exact .digits (by simpa using hlength) hlower

/-- The characters of names. -/
def nameChars : List Char := "abcdefghijklmnopqrstuvwxyz0123456789ABCDEF-[]#".toList

theorem any_isBlank_nameChars : nameChars.any isBlank = false := by decide

/-- What a class that is made from a name needs of it. -/
structure IsBackground (cs : List Char) : Prop where
  chars : cs ⊆ nameChars
  isColor : isColor cs = true
  hyphens : occursIn ['-', '-'] ('-' :: cs) = false
  last : cs.getLast?.any (· != '-') = true
  start : startsDoubled ("bg-".toList ++ cs) = false

private theorem isBackground_step {family : String × List String} {step : String}
    (hfamily : family ∈ Palette.families) (hstep : step ∈ colorSteps) :
    IsBackground (family.1.toList ++ '-' :: step.toList) where
  chars := by
    have hfamilies : ∀ f ∈ Palette.families, f.1.toList ⊆ nameChars := by decide +kernel
    have hsteps : ∀ step ∈ colorSteps, step.toList ⊆ nameChars := by decide +kernel
    exact List.append_subset.2 ⟨hfamilies _ hfamily,
      List.cons_subset.2 ⟨by decide, hsteps _ hstep⟩⟩
  isColor := by
    have hcolors : ∀ f ∈ Palette.families, ∀ step ∈ colorSteps,
        ClassToken.isColor (f.1.toList ++ '-' :: step.toList) = true := by decide +kernel
    exact hcolors _ hfamily _ hstep
  hyphens := by
    have hnone : ∀ f ∈ Palette.families, ∀ step ∈ colorSteps,
        occursIn ['-', '-'] ('-' :: (f.1.toList ++ '-' :: step.toList)) = false := by
      decide +kernel
    exact hnone _ hfamily _ hstep
  last := by
    have hlast : ∀ step ∈ colorSteps,
        ('-' :: step.toList).getLast?.any (· != '-') = true := by decide +kernel
    rw [List.getLast?_append_of_ne_nil _ (List.cons_ne_nil _ _)]
    exact hlast _ hstep
  start := by
    have hplain : ∀ f ∈ Palette.families, ∀ step ∈ colorSteps,
        startsDoubled ("bg-".toList ++ (f.1.toList ++ '-' :: step.toList)) = false := by
      decide +kernel
    exact hplain _ hfamily _ hstep

theorem not_mem_bracketed {ds : List Char} {c : Char} (hds : c ∉ ds) (hc : c ∉ "[#]".toList) :
    c ∉ '[' :: '#' :: (ds ++ [']']) := by
  intro hmem
  simp only [List.mem_cons, List.mem_append, List.not_mem_nil, or_false] at hmem
  rcases hmem with rfl | rfl | hmem | rfl
  · exact hc (by decide)
  · exact hc (by decide)
  · exact hds hmem
  · exact hc (by decide)

private theorem isColor_of_isBaseColor {cs : List Char} (h : isBaseColor cs = true)
    (hslash : '/' ∉ cs) :
    isColor cs = true := by
  have hnoSlash := forall_bne_of_not_mem hslash
  rw [isColor, List.span_eq_takeWhile_dropWhile, List.takeWhile_eq_self_iff.2 hnoSlash,
    List.dropWhile_eq_nil_iff.2 hnoSlash]
  simp only [h, List.isEmpty_nil, Bool.true_or, Bool.and_self]

private theorem isBackground_digits {ds : List Char} (hlength : ds.length = 3 ∨ ds.length = 6)
    (hdigits : ∀ c ∈ ds, isHexDigit c = true) : IsBackground ('[' :: '#' :: (ds ++ [']'])) where
  chars := by
    have hhex : hexDigits ⊆ nameChars := by decide
    have hds : ds ⊆ nameChars := fun c hc => hhex (mem_hexDigits (hdigits c hc))
    exact List.cons_subset.2 ⟨by decide, List.cons_subset.2 ⟨by decide,
      List.append_subset.2 ⟨hds, by decide⟩⟩⟩
  isColor := by
    have hbracketed : bracketed? ('[' :: '#' :: (ds ++ [']'])) = some ('#' :: ds) := by
      simp [bracketed?]
    have hall : ds.all isHexDigit = true := List.all_eq_true.2 hdigits
    have hbound : 3 ≤ ds.length ∧ ds.length ≤ 8 := by omega
    have hbase : isBaseColor ('[' :: '#' :: (ds ++ [']'])) = true := by
      simp [isBaseColor, hbracketed, hall, hbound]
    have hslash : '/' ∉ ds := fun hmem => absurd (hdigits _ hmem) (by decide)
    exact isColor_of_isBaseColor hbase (not_mem_bracketed hslash (by decide))
  hyphens := by
    have hhyphen : '-' ∉ ds := fun hmem => absurd (hdigits _ hmem) (by decide)
    have hnone := occursIn_eq_false ['-'] (not_mem_bracketed hhyphen (by decide))
    exact hnone
  last := by
    have hlast : ('[' :: '#' :: (ds ++ [']'])).getLast? = some ']' := by
      simp [List.getLast?_cons]
    rw [hlast]
    rfl
  start := rfl

theorem IsColorName.isBackground {name : String} (h : IsColorName name) :
    IsBackground name.toList := by
  cases h with
  | step hfamily hstep =>
    rw [String.toList_append, String.toList_append, List.append_assoc]
    exact isBackground_step hfamily hstep
  | digits hlength hdigits =>
    rw [String.toList_ofList]
    exact isBackground_digits hlength hdigits

/-- The class of a background. -/
def background (name : String) : ClassToken :=
  ⟨"bg-" ++ name, [], "bg-" ++ name, some "bg-color"⟩

/-- The class of a background under the pointer. -/
def hoverBackground (name : String) : ClassToken :=
  ⟨"hover:bg-" ++ name, ["hover"], "bg-" ++ name, some "bg-color"⟩

private theorem splitVariants_hover {cs : List Char} (h : ':' ∉ cs) :
    splitVariants ("hover:".toList ++ cs) = ("hover:".toList, cs) := by
  have hcut : cutFrom 0 0 0 ("hover:".toList ++ cs) = 6 := cutFrom_eq h
  rw [splitVariants, hcut]
  rfl

theorem classify_background {cs : List Char} (h : isColor cs = true) :
    classify ("bg-".toList ++ cs) = some "bg-color" := by
  have hrule : (plainRule "bg-" .color "bg-color").group? ("bg-".toList ++ cs)
      = if isColor cs then some "bg-color" else none := rfl
  have hcore : core ("bg-".toList ++ cs) = "bg-".toList ++ cs := rfl
  rw [classify, groupRules, hcore, List.findSome?_cons, hrule, if_pos h]

namespace IsBackground

variable {front cs : List Char}

private theorem forall_mem (h : IsBackground cs) {p : Char → Bool} (hp : nameChars.all p = true) :
    ∀ c ∈ cs, p c = true :=
  fun c hc => List.all_eq_true.1 hp c (h.chars hc)

theorem not_mem (h : IsBackground cs) {c : Char} (hc : c ∉ nameChars) : c ∉ cs :=
  fun hmem => hc (h.chars hmem)

theorem exists_concat (h : IsBackground cs) :
    ∃ body c, cs = body ++ [c] ∧ c ∈ nameChars ∧ c ≠ '-' := by
  obtain ⟨c, hc, hne⟩ := (Option.any_eq_true _ _).1 h.last
  obtain ⟨body, rfl⟩ := List.getLast?_eq_some_iff.1 hc
  exact ⟨body, c, rfl, h.chars (by simp), by simpa using hne⟩

theorem dropFinalNewline_append (h : IsBackground cs) (front : List Char) :
    dropFinalNewline (front ++ cs) = front ++ cs := by
  obtain ⟨body, c, hcs, hc, -⟩ := h.exists_concat
  have hnewline : c ≠ '\n' := by
    rintro rfl
    exact absurd hc (by decide)
  rw [hcs, ← List.append_assoc, dropFinalNewline_concat hnewline]

theorem hasFlaw_append (h : IsBackground cs)
    (hfront : front = "bg-".toList ∨ front = "hover:bg-".toList) :
    hasFlaw (front ++ cs) = false := by
  obtain ⟨body, c, hcs, hc, hhyphen⟩ := h.exists_concat
  have hcolon : c ≠ ':' := by
    rintro rfl
    exact absurd hc (by decide)
  have hlast : (front ++ cs).getLast? = some c := by simp [hcs]
  have hbody : (front ++ cs).isEmpty = false := by simp [hcs]
  have hstart : startsDoubled (front ++ cs) = false := by
    rcases hfront with rfl | rfl
    · exact h.start
    · rfl
  -- The front ends in a hyphen, so that the name must not begin with one.
  have hhyphens : occursIn ['-', '-'] (front ++ cs) = false := by
    rcases hfront with rfl | rfl <;> exact h.hyphens
  have hcolons : occursIn [':', ':'] (front ++ cs) = false := by
    have hnone := occursIn_eq_false [':'] (h.not_mem (c := ':') (by decide))
    rcases hfront with rfl | rfl <;> exact hnone
  have hhyphenText : "--".toList = ['-', '-'] := rfl
  have hcolonText : "::".toList = [':', ':'] := rfl
  simp only [hasFlaw, h.dropFinalNewline_append, hlast, hbody, hstart, hhyphenText,
    hcolonText, hhyphens, hcolons]
  simp [hhyphen, hcolon]

theorem isMalformed_append (h : IsBackground cs)
    (hfront : front = "bg-".toList ∨ front = "hover:bg-".toList)
    (hsplit : (splitVariants (front ++ cs)).2 = "bg-".toList ++ cs) :
    isMalformed (front ++ cs) = false := by
  obtain ⟨body, c, hcs, -⟩ := h.exists_concat
  have hall : (front ++ cs).all isTokenChar = true := by
    rw [List.all_append, Bool.and_eq_true]
    refine ⟨?_, List.all_eq_true.2 (h.forall_mem (by decide))⟩
    rcases hfront with rfl | rfl <;> decide
  have hcore : core ("bg-".toList ++ cs) = "bg-".toList ++ cs := rfl
  have hbody : (front ++ cs).isEmpty = false := by simp [hcs]
  simp only [isMalformed, h.dropFinalNewline_append, hall, hbody, hsplit, hcore,
    h.hasFlaw_append hfront, h.hasFlaw_append (.inl rfl)]
  rfl

end IsBackground

namespace IsColorName

variable {front name : String}

/-- A property that none of the characters of names has is checked for what precedes the name. -/
theorem forall_mem_append (h : IsColorName name) {p : Char → Bool}
    (hp : nameChars.any p = false) (hfront : front.toList.any p = false) :
    ∀ c ∈ (front ++ name).toList, p c = false := by
  have hname : name.toList.any p = false := by
    rw [List.any_eq_false] at hp ⊢
    exact fun c hc => hp c (h.isBackground.chars hc)
  have hany : (front ++ name).toList.any p = false := by
    rw [String.toList_append, List.any_append, hfront, hname, Bool.or_self]
  simpa only [List.any_eq_false, Bool.not_eq_true] using hany

theorem not_isBlank_background (h : IsColorName name) :
    ∀ c ∈ ("bg-" ++ name).toList, isBlank c = false :=
  h.forall_mem_append any_isBlank_nameChars (by decide)

theorem not_isBlank_hoverBackground (h : IsColorName name) :
    ∀ c ∈ ("hover:bg-" ++ name).toList, isBlank c = false :=
  h.forall_mem_append any_isBlank_nameChars (by decide)

theorem not_mem_background (h : IsColorName name) : ':' ∉ "bg-".toList ++ name.toList :=
  List.not_mem_append (by decide) (h.isBackground.not_mem (by decide))

theorem splitVariants_background (h : IsColorName name) :
    splitVariants ("bg-" ++ name).toList = ([], "bg-".toList ++ name.toList) := by
  rw [String.toList_append]
  exact splitVariants_eq h.not_mem_background

theorem splitVariants_hoverBackground (h : IsColorName name) :
    splitVariants ("hover:bg-" ++ name).toList
      = ("hover:".toList, "bg-".toList ++ name.toList) := by
  rw [String.toList_append]
  exact splitVariants_hover h.not_mem_background

theorem parse?_background (h : IsColorName name) :
    parse? ("bg-" ++ name).toList = some (background name) := by
  have hsplit := h.splitVariants_background
  have hwell : isMalformed ("bg-" ++ name).toList = false := by
    rw [String.toList_append] at hsplit ⊢
    exact h.isBackground.isMalformed_append (.inl rfl) (congrArg Prod.snd hsplit)
  rw [parse?_eq h.not_isBlank_background hwell hsplit, classify_background h.isBackground.isColor,
    ← String.toList_append, String.ofList_toList]
  rfl

theorem parse?_hoverBackground (h : IsColorName name) :
    parse? ("hover:bg-" ++ name).toList = some (hoverBackground name) := by
  have hsplit := h.splitVariants_hoverBackground
  have hwell : isMalformed ("hover:bg-" ++ name).toList = false := by
    rw [String.toList_append] at hsplit ⊢
    exact h.isBackground.isMalformed_append (.inr rfl) (congrArg Prod.snd hsplit)
  rw [parse?_eq h.not_isBlank_hoverBackground hwell hsplit,
    classify_background h.isBackground.isColor, ← String.toList_append, String.ofList_toList,
    String.ofList_toList]
  rfl

end IsColorName

end SiteTemplate
