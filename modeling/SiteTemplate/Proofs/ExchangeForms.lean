import SiteTemplate.Proofs.ExchangedClasses
import SiteTemplate.Proofs.ThemeChoice

/-!
# The forms that a skin exchanges

A skin looks for utilities of four forms: a colour of one of three families, one of two fonts, a
radius and a shadow. A text falls into tokens at its delimiters, and what becomes of a token depends
on this token alone: if its utility is of one of the forms and the skin has something for it, this
takes the place of the utility and is not looked at again.
-/

namespace SiteTemplate.Skin

open Text ClassToken

variable {s : Skin} {u v : List Char}

/-- The utilities whose colour can be exchanged, up to the first hyphen. -/
def colorStems : List String := ["bg", "text", "border"]

/-- One or more lower-case letters and digits. -/
def IsStep (step : List Char) : Prop := step ≠ [] ∧ ∀ c ∈ step, isStepChar c = true

/-- A utility of one of the forms that a skin looks for. -/
inductive Form where
  /-- A colour of a family, perhaps marked as important, with or without opacity. -/
  | color (important : Bool) (stem family step : String) (opacity : List Char)
  /-- A font in brackets. -/
  | font (name : String)
  /-- A radius of all corners or of those on one side. -/
  | radius (side : Option String) (step : List Char)
  | shadow (step : List Char)

namespace Form

/-- Whether the parts are among those that a skin looks for. -/
def IsProper : Form → Prop
  | color _ stem family step opacity =>
    stem ∈ colorStems ∧ family ∈ exchangedFamilies ∧ step ∈ familySteps
      ∧ isOpacityMark opacity = true
  | font name => name ∈ ["Inter", "Poppins"]
  | radius side step => (∀ x ∈ side, x ∈ radiusSides) ∧ IsStep step
  | shadow step => IsStep step

/-- What precedes a colour utility that is marked as important. -/
def mark (important : Bool) : List Char := if important then ['!'] else []

/-- The side of a radius with the hyphen before it. -/
def sideChars : Option String → List Char
  | none => []
  | some side => '-' :: side.toList

/-- The text of a utility. -/
def chars : Form → List Char
  | color important stem family step opacity =>
    mark important ++ (stem.toList ++ '-' :: (family.toList ++ '-' :: (step.toList ++ opacity)))
  | font name => "font-[".toList ++ (name.toList ++ [']'])
  | radius side step => "rounded".toList ++ (sideChars side ++ '-' :: step)
  | shadow step => "shadow-".toList ++ step

theorem chars_color (important : Bool) (stem family step : String) (opacity : List Char) :
    (color important stem family step opacity).chars
      = mark important
        ++ (stem.toList ++ '-' :: (family.toList ++ '-' :: (step.toList ++ opacity))) :=
  rfl

theorem chars_font (name : String) :
    (font name).chars = "font-[".toList ++ (name.toList ++ [']']) := rfl

theorem chars_radius (side : Option String) (step : List Char) :
    (radius side step).chars = "rounded".toList ++ (sideChars side ++ '-' :: step) := rfl

theorem chars_shadow (step : List Char) : (shadow step).chars = "shadow-".toList ++ step := rfl

/-- What a skin puts in the place of a utility. -/
def exchanged? (s : Skin) : Form → Option (List Char)
  | color important stem family _ opacity =>
    (s.familyColor? stem family).map fun color =>
      mark important ++ (stem.toList ++ '-' :: (color.toList ++ opacity))
  | font _ =>
    if s.font = "" then none else some ("font-['".toList ++ (s.font.toList ++ "']".toList))
  | radius side step =>
    (Entries.get? s.radiusSteps (.ofList step)).map fun other =>
      "rounded".toList ++ (sideChars side ++ '-' :: other.toList)
  | shadow step =>
    (Entries.get? s.shadowSteps (.ofList step)).map fun other => "shadow-".toList ++ other.toList

/-- The characters with which a form can begin. -/
def leads : Form → List Char
  | color .. => ['!', 'b', 't']
  | font _ => ['f']
  | radius .. => ['r']
  | shadow _ => ['s']

theorem exists_head?_chars {f : Form} (hf : f.IsProper) :
    ∃ c ∈ f.leads, f.chars.head? = some c := by
  cases f with
  | color important stem family step opacity =>
    have hstems : ∀ stem ∈ colorStems, ∃ c ∈ ['b', 't'], stem.toList.head? = some c := by decide
    obtain ⟨c, hc, hhead⟩ := hstems stem hf.1
    cases important with
    | true => exact ⟨'!', List.mem_cons_self, rfl⟩
    | false => exact ⟨c, List.mem_cons_of_mem _ hc, by simp [chars_color, mark, hhead]⟩
  | font name => exact ⟨'f', List.mem_cons_self, rfl⟩
  | radius side step => exact ⟨'r', List.mem_cons_self, rfl⟩
  | shadow step => exact ⟨'s', List.mem_cons_self, rfl⟩

private theorem chars_ne {f g : Form} (hf : f.IsProper) (hg : g.IsProper)
    (h : ∀ c ∈ f.leads, c ∉ g.leads) : g.chars ≠ f.chars := by
  intro heq
  obtain ⟨c, hc, hhead⟩ := exists_head?_chars hf
  obtain ⟨d, hd, hhead'⟩ := exists_head?_chars hg
  rw [heq, hhead, Option.some.injEq] at hhead'
  exact h c hc (hhead' ▸ hd)

end Form

theorem append_splitHyphen {cs rest : List Char} {part : String} (hmem : '-' ∈ cs)
    (h : splitHyphen cs = (part, rest)) : cs = part.toList ++ '-' :: rest := by
  obtain ⟨rfl, rfl⟩ := Prod.mk.inj h
  rw [String.toList_ofList]
  cases hcs : cs.dropWhile (· != '-') with
  | nil =>
    rw [List.dropWhile_eq_nil_iff] at hcs
    exact absurd (hcs _ hmem) (by decide)
  | cons c more =>
    have hc : c = '-' := by
      have hhead := List.head?_dropWhile_not (· != '-') cs
      simpa [hcs] using hhead
    subst hc
    rw [List.drop_succ_cons, List.drop_zero, ← hcs, List.takeWhile_append_dropWhile]

theorem append_splitHyphen_of_ne_nil {cs rest : List Char} {part : String}
    (h : splitHyphen cs = (part, rest)) (hrest : rest ≠ []) : cs = part.toList ++ '-' :: rest := by
  by_cases hmem : '-' ∈ cs
  · exact append_splitHyphen hmem h
  · rw [splitHyphen_eq hmem] at h
    exact absurd (Prod.mk.inj h).2.symm hrest

private theorem mem_of_familyColor? {stem family color : String}
    (h : s.familyColor? stem family = some color) :
    stem ∈ colorStems ∧ family ∈ exchangedFamilies := by
  unfold familyColor? at h
  split at h
  case h_4 => cases h
  all_goals
    obtain ⟨hstem, -⟩ := Option.ite_none_right_eq_some.1 h
    rw [List.contains_iff_mem] at hstem
    exact ⟨(by decide : _ ⊆ colorStems) hstem, by decide⟩

theorem isOpacityMark_iff {opacity : List Char} : isOpacityMark opacity = true ↔
    opacity = [] ∨ ∃ digits, opacity = '/' :: digits ∧ 1 ≤ digits.length ∧ digits.length ≤ 3
      ∧ ∀ c ∈ digits, isDecimalDigit c = true := by
  rw [isOpacityMark, Bool.or_eq_true, List.isEmpty_iff]
  refine or_congr_right ?_
  unfold isOpacity
  split
  · simp [and_assoc]
  · next hslash => exact iff_of_false Bool.false_ne_true fun ⟨digits, h, _⟩ => hslash digits h

theorem head?_opacity {opacity : List Char} (h : isOpacityMark opacity = true) :
    opacity.head?.any (· != '/') = false := by
  rcases isOpacityMark_iff.1 h with rfl | ⟨digits, rfl, -⟩ <;> rfl

private theorem exists_mark_append (u : List Char) :
    ∃ important body, u = Form.mark important ++ body
    ∧ (important = false → body.head? ≠ some '!') := by
  by_cases h : u.head? = some '!'
  · obtain ⟨body, rfl⟩ := List.head?_eq_some_iff.1 h
    exact ⟨true, body, rfl, nofun⟩
  · exact ⟨false, u, rfl, fun _ => h⟩

theorem color?_mark_append {important : Bool} {body rest tail : List Char} {stem family : String}
    (hmark : important = false → body.head? ≠ some '!') (hstem : splitHyphen body = (stem, rest))
    (hfamily : splitHyphen rest = (family, tail)) :
    s.color? (Form.mark important ++ body)
      = if familySteps.contains (String.ofList (tail.takeWhile (· != '/')))
            && isOpacityMark (tail.dropWhile (· != '/')) then
          (s.familyColor? stem family).map fun color =>
            Form.mark important
              ++ (stem.toList ++ '-' :: (color.toList ++ tail.dropWhile (· != '/')))
        else none := by
  have happend (color : String) (opacity : List Char) :
      Form.mark important ++ stem.toList ++ '-' :: color.toList ++ opacity
        = Form.mark important ++ (stem.toList ++ '-' :: (color.toList ++ opacity)) := by simp
  simp only [← happend]
  cases important with
  | true =>
    change s.color? ('!' :: body) = _
    simp only [color?, hstem, hfamily]
    rfl
  | false =>
    rw [Form.mark, if_neg Bool.false_ne_true, List.nil_append, color?]
    · simp only [hstem, hfamily]
    · intro rest hrest
      exact hmark rfl (by rw [hrest]; rfl)

theorem color?_eq_some_iff : s.color? u = some v ↔ ∃ important stem family step opacity,
    (Form.color important stem family step opacity).IsProper
      ∧ (Form.color important stem family step opacity).chars = u
      ∧ (Form.color important stem family step opacity).exchanged? s = some v := by
  constructor
  · intro h
    obtain ⟨important, body, rfl, hmark⟩ := exists_mark_append u
    rcases hstem : splitHyphen body with ⟨stem, rest⟩
    rcases hfamily : splitHyphen rest with ⟨family, tail⟩
    rw [color?_mark_append hmark hstem hfamily] at h
    obtain ⟨hparts, hexchanged⟩ := Option.ite_none_right_eq_some.1 h
    rw [Bool.and_eq_true, List.contains_iff_mem] at hparts
    obtain ⟨hstep, hopacity⟩ := hparts
    obtain ⟨color, hcolor, rfl⟩ := Option.map_eq_some_iff.1 hexchanged
    have hknown := mem_of_familyColor? hcolor
    -- No step is empty, so that hyphens stand where the parts were cut.
    have htail : tail ≠ [] := by
      rintro rfl
      exact absurd hstep (by decide)
    have hrest := append_splitHyphen_of_ne_nil hfamily htail
    have hbody := append_splitHyphen_of_ne_nil hstem (by simp [hrest])
    refine ⟨important, stem, family, .ofList (tail.takeWhile (· != '/')), tail.dropWhile (· != '/'),
      ⟨hknown.1, hknown.2, hstep, hopacity⟩, ?_, ?_⟩
    · rw [Form.chars_color, String.toList_ofList, List.takeWhile_append_dropWhile, hbody, hrest]
    · simp [Form.exchanged?, hcolor]
  · rintro ⟨important, stem, family, step, opacity, ⟨hstem, hfamily, hstep, hopacity⟩, rfl, hv⟩
    have hstems : ∀ stem ∈ colorStems, '-' ∉ stem.toList ∧ stem.toList.head? ≠ some '!'
        ∧ stem.toList ≠ [] := by decide
    have hfamilies : ∀ family ∈ exchangedFamilies, '-' ∉ family.toList := by decide
    have hsteps : ∀ step ∈ familySteps, ∀ c ∈ step.toList, (c != '/') = true := by decide
    have hstemHyphen := splitHyphen_append (hstems _ hstem).1
      (family.toList ++ '-' :: (step.toList ++ opacity))
    have hfamilyHyphen := splitHyphen_append (hfamilies _ hfamily) (step.toList ++ opacity)
    rw [String.ofList_toList] at hstemHyphen hfamilyHyphen
    have hslash := head?_opacity hopacity
    have hmark : (stem.toList ++ '-' :: (family.toList ++ '-' :: (step.toList ++ opacity))).head?
        ≠ some '!' := by
      rw [List.head?_append_of_ne_nil _ (hstems _ hstem).2.2]
      exact (hstems _ hstem).2.1
    rw [Form.chars_color, color?_mark_append (fun _ => hmark) hstemHyphen hfamilyHyphen,
      takeWhile_append_of_stop (hsteps _ hstep) hslash,
      dropWhile_append_of_stop (hsteps _ hstep) hslash, String.ofList_toList,
      List.contains_iff_mem.2 hstep, hopacity]
    exact hv

theorem font?_eq_some_iff : s.font? u = some v ↔ ∃ name, (Form.font name).IsProper
    ∧ (Form.font name).chars = u ∧ (Form.font name).exchanged? s = some v := by
  have hnames : (u == "font-[Inter]".toList || u == "font-[Poppins]".toList) = true
      ↔ ∃ name, (Form.font name).IsProper ∧ (Form.font name).chars = u := by
    rw [Bool.or_eq_true, beq_iff_eq, beq_iff_eq]
    constructor
    · rintro (rfl | rfl)
      · exact ⟨"Inter", by simp [Form.IsProper], rfl⟩
      · exact ⟨"Poppins", by simp [Form.IsProper], rfl⟩
    · rintro ⟨name, hname, rfl⟩
      rcases List.mem_pair.1 hname with rfl | rfl
      · exact .inl rfl
      · exact .inr rfl
  have hfont (name : String) : (Form.font name).exchanged? s = some v
      ↔ (s.font != "") = true
        ∧ some ("font-['".toList ++ s.font.toList ++ "']".toList) = some v := by
    rw [Form.exchanged?, Option.ite_none_left_eq_some, bne_iff_ne, List.append_assoc]
  rw [font?, Option.ite_none_right_eq_some, Bool.and_eq_true, hnames, and_assoc]
  constructor
  · rintro ⟨⟨name, hname, hchars⟩, hv⟩
    exact ⟨name, hname, hchars, (hfont name).2 hv⟩
  · rintro ⟨name, hname, hchars, hv⟩
    exact ⟨⟨name, hname, hchars⟩, (hfont name).1 hv⟩

theorem exchange?_eq_some_iff {steps : Entries String String} {step : List Char} {other : String} :
    exchange? steps step = some other
      ↔ IsStep step ∧ Entries.get? steps (.ofList step) = some other := by
  rw [exchange?, Option.ite_none_right_eq_some, Bool.and_eq_true, List.all_eq_true, IsStep]
  simp

theorem shadow?_eq_some_iff : s.shadow? u = some v ↔ ∃ step, (Form.shadow step).IsProper
    ∧ (Form.shadow step).chars = u ∧ (Form.shadow step).exchanged? s = some v := by
  simp only [shadow?, Option.bind_eq_bind, Option.bind_eq_some_iff, after?_eq_some_iff,
    Option.map_eq_some_iff, exchange?_eq_some_iff, Form.exchanged?, Form.IsProper,
    Form.chars_shadow]
  constructor
  · rintro ⟨step, rfl, other, ⟨hstep, hother⟩, rfl⟩
    exact ⟨step, hstep, rfl, other, hother, rfl⟩
  · rintro ⟨step, hstep, rfl, other, hother, rfl⟩
    exact ⟨step, rfl, other, ⟨hstep, hother⟩, rfl⟩

theorem IsStep.not_mem {step : List Char} (h : IsStep step) : '-' ∉ step := by
  intro hmem
  exact absurd (h.2 _ hmem) (by decide)

theorem radius?_eq_some_iff : s.radius? u = some v ↔ ∃ side step, (Form.radius side step).IsProper
    ∧ (Form.radius side step).chars = u ∧ (Form.radius side step).exchanged? s = some v := by
  have hstem (cs : List Char) : "rounded-".toList ++ cs = "rounded".toList ++ '-' :: cs := rfl
  simp only [radius?, Option.bind_eq_bind, Option.bind_eq_some_iff, after?_eq_some_iff]
  constructor
  · rintro ⟨rest, rfl, hrest⟩
    split at hrest
    · next hmem =>
      rw [List.contains_iff_mem] at hmem
      obtain ⟨hside, hexchanged⟩ := Option.ite_none_right_eq_some.1 hrest
      obtain ⟨other, hother, rfl⟩ := Option.map_eq_some_iff.1 hexchanged
      obtain ⟨hstep, hother⟩ := exchange?_eq_some_iff.1 hother
      refine ⟨some (splitHyphen rest).1, (splitHyphen rest).2, ⟨?_, hstep⟩, ?_, ?_⟩
      · rintro side ⟨⟩
        exact List.contains_iff_mem.1 hside
      · rw [Form.chars_radius, hstem]
        exact congrArg _ (congrArg _ (append_splitHyphen hmem rfl).symm)
      · rw [Form.exchanged?, hother]
        simp [Form.sideChars]
    · next hmem =>
      obtain ⟨other, hother, rfl⟩ := Option.map_eq_some_iff.1 hrest
      obtain ⟨hstep, hother⟩ := exchange?_eq_some_iff.1 hother
      exact ⟨none, rest, ⟨nofun, hstep⟩, rfl, by rw [Form.exchanged?, hother]; rfl⟩
  · rintro ⟨side, step, ⟨hside, hstep⟩, rfl, hv⟩
    obtain ⟨other, hother, rfl⟩ := Option.map_eq_some_iff.1 hv
    have hexchange := exchange?_eq_some_iff.2 ⟨hstep, hother⟩
    cases side with
    | none =>
      refine ⟨step, rfl, ?_⟩
      rw [if_neg (by simpa using hstep.not_mem), hexchange]
      rfl
    | some side =>
      have hhyphen : ∀ side ∈ radiusSides, '-' ∉ side.toList := by decide
      have hsplit := splitHyphen_append (hhyphen side (hside side rfl)) step
      rw [String.ofList_toList] at hsplit
      refine ⟨side.toList ++ '-' :: step, rfl, ?_⟩
      rw [if_pos (by simp), hsplit, if_pos (List.contains_iff_mem.2 (hside side rfl)), hexchange]
      simp [Form.sideChars]

theorem eq_none_of_chars_ne {read : List Char → Option (List Char)} {f : Form} (hf : f.IsProper)
    (hread : ∀ u v, read u = some v → ∃ g : Form, g.IsProper ∧ g.chars = u
      ∧ ∀ c ∈ f.leads, c ∉ g.leads) : read f.chars = none := by
  refine Option.eq_none_iff_forall_ne_some.2 fun v hv => ?_
  obtain ⟨g, hg, hchars, hleads⟩ := hread _ v hv
  exact Form.chars_ne hf hg hleads hchars

theorem color?_eq_none {f : Form} (hf : f.IsProper) (h : ∀ c ∈ f.leads, c ∉ ['!', 'b', 't']) :
    s.color? f.chars = none :=
  eq_none_of_chars_ne hf fun u v hv => by
    obtain ⟨important, stem, family, step, opacity, hg, hchars, -⟩ := color?_eq_some_iff.1 hv
    exact ⟨_, hg, hchars, h⟩

theorem font?_eq_none {f : Form} (hf : f.IsProper) (h : ∀ c ∈ f.leads, c ∉ ['f']) :
    s.font? f.chars = none :=
  eq_none_of_chars_ne hf fun u v hv => by
    obtain ⟨name, hg, hchars, -⟩ := font?_eq_some_iff.1 hv
    exact ⟨_, hg, hchars, h⟩

private theorem radius?_eq_none {f : Form} (hf : f.IsProper) (h : ∀ c ∈ f.leads, c ∉ ['r']) :
    s.radius? f.chars = none :=
  eq_none_of_chars_ne hf fun u v hv => by
    obtain ⟨side, step, hg, hchars, -⟩ := radius?_eq_some_iff.1 hv
    exact ⟨_, hg, hchars, h⟩

/-- A utility is exchanged exactly if it is of one of the forms and the skin has something for
it. -/
theorem utility?_eq_some_iff : s.utility? u = some v
    ↔ ∃ f : Form, f.IsProper ∧ f.chars = u ∧ f.exchanged? s = some v := by
  constructor
  · intro h
    simp only [utility?, Option.or_eq_some_iff] at h
    rcases h with hcolor | ⟨-, hfont | ⟨-, hradius | ⟨-, hshadow⟩⟩⟩
    · obtain ⟨important, stem, family, step, opacity, hf⟩ := color?_eq_some_iff.1 hcolor
      exact ⟨_, hf⟩
    · obtain ⟨name, hf⟩ := font?_eq_some_iff.1 hfont
      exact ⟨_, hf⟩
    · obtain ⟨side, step, hf⟩ := radius?_eq_some_iff.1 hradius
      exact ⟨_, hf⟩
    · obtain ⟨step, hf⟩ := shadow?_eq_some_iff.1 hshadow
      exact ⟨_, hf⟩
  · rintro ⟨f, hf, rfl, hv⟩
    rw [utility?]
    cases f with
    | color important stem family step opacity =>
      rw [color?_eq_some_iff.2 ⟨_, _, _, _, _, hf, rfl, hv⟩, Option.some_or]
    | font name =>
      rw [color?_eq_none hf (by simp [Form.leads]), font?_eq_some_iff.2 ⟨_, hf, rfl, hv⟩,
        Option.none_or, Option.some_or]
    | radius side step =>
      rw [color?_eq_none hf (by simp [Form.leads]), font?_eq_none hf (by simp [Form.leads]),
        radius?_eq_some_iff.2 ⟨_, _, hf, rfl, hv⟩, Option.none_or, Option.none_or, Option.some_or]
    | shadow step =>
      rw [color?_eq_none hf (by simp [Form.leads]), font?_eq_none hf (by simp [Form.leads]),
        radius?_eq_none hf (by simp [Form.leads]), shadow?_eq_some_iff.2 ⟨_, hf, rfl, hv⟩,
        Option.none_or, Option.none_or, Option.none_or]

/-- What becomes of a token: what a skin has for its utility follows its variants, or, if there is
nothing, the token stays. -/
inductive Becomes (s : Skin) (w : List Char) : List Char → Prop where
  | exchanged {f : Form} {v : List Char} (hproper : f.IsProper)
      (hchars : f.chars = (splitVariants w).2) (hv : f.exchanged? s = some v) :
      Becomes s w ((splitVariants w).1 ++ v)
  | kept (h : ∀ f : Form, f.IsProper → f.chars = (splitVariants w).2 → f.exchanged? s = none) :
      Becomes s w w

theorem token_eq_iff {w w' : List Char} : s.token w = w' ↔ s.Becomes w w' := by
  unfold token
  cases hutility : s.utility? (splitVariants w).2 with
  | some v =>
    simp only [hutility]
    obtain ⟨f, hf, hchars, hv⟩ := utility?_eq_some_iff.1 hutility
    constructor
    · rintro rfl
      exact .exchanged hf hchars hv
    · rintro (⟨hg, hgchars, hw⟩ | hnone)
      · rw [utility?_eq_some_iff.2 ⟨_, hg, hgchars, hw⟩] at hutility
        rw [Option.some.inj hutility]
      · rw [hnone f hf hchars] at hv
        cases hv
  | none =>
    simp only [hutility]
    constructor
    · rintro rfl
      refine .kept fun f hf hchars => Option.eq_none_iff_forall_ne_some.2 fun v hv => ?_
      rw [utility?_eq_some_iff.2 ⟨f, hf, hchars, hv⟩] at hutility
      cases hutility
    · rintro (⟨hf, hchars, hv⟩ | -)
      · rw [utility?_eq_some_iff.2 ⟨_, hf, hchars, hv⟩] at hutility
        cases hutility
      · rfl

/-- A text that is a single token becomes what its token becomes. -/
theorem wear_eq_token {run : List Char} (h : IsRun run) : s.wear run = s.token run := by
  simp [wear, runs_eq_of_isRun h]

end SiteTemplate.Skin

namespace SiteTemplate.ThemeRegistry

open ClassToken

variable {r : ThemeRegistry} {name : Option String} {customizations : Members} {out : String}

/-- A text is put into a skin if there is a theme and the skin can be made of it. -/
theorem reskin_eq_ok_iff_wear {text : String} : r.reskin text name customizations = .ok out ↔
    ∃ t skipped s, r.customized name customizations = .ok (t, skipped) ∧ Skin.ofTheme t = .ok s
      ∧ s.wear text.toList = out.toList := by
  simp only [reskin, Theme.reskin, bind_eq_ok_iff, map_eq_ok_iff, Prod.exists,
    ← String.toList_inj, String.toList_ofList]
  constructor
  · rintro ⟨t, skipped, ht, s, hs, hout⟩
    exact ⟨t, skipped, s, ht, hs, hout⟩
  · rintro ⟨t, skipped, s, ht, hs, hout⟩
    exact ⟨t, skipped, ht, s, hs, hout⟩

private theorem reskin_append_delimiter (r : ThemeRegistry) (name : Option String)
    (customizations : Members) {d : Char} (hd : Skin.isDelimiter d = true) (a b : String) :
    r.reskin (a ++ d.toString ++ b) name customizations = (do
      let a' ← r.reskin a name customizations
      let b' ← r.reskin b name customizations
      pure (a' ++ d.toString ++ b')) := by
  have hchars : (a ++ d.toString ++ b).toList = a.toList ++ d :: b.toList := by simp
  unfold reskin
  cases r.customized name customizations with
  | error e => rfl
  | ok merged =>
    obtain ⟨t, skipped⟩ := merged
    simp only [bind, Except.bind, Theme.reskin]
    cases Skin.ofTheme t with
    | error e => rfl
    | ok s =>
      simp only [Except.map, pure, Except.pure, hchars, Skin.wear_append_delimiter hd]
      refine congrArg Except.ok (String.toList_injective ?_)
      simp

/-- A text is put into the skin of a theme token by token, whatever the text: on both sides of a
delimiter it becomes what it becomes there on its own, and a single token has its utility exchanged
once or stays. It stays in any case unless its utility as a whole is of one of the forms. -/
theorem reskin_token_by_token (r : ThemeRegistry) (name : Option String)
    (customizations : Members) :
    (∀ text, (∃ out, r.reskin text name customizations = .ok out) ↔
        ∃ t skipped s, r.customized name customizations = .ok (t, skipped)
          ∧ Skin.ofTheme t = .ok s)
    ∧ (∀ d, Skin.isDelimiter d = true → ∀ a b : String,
      r.reskin (a ++ d.toString ++ b) name customizations = (do
        let a' ← r.reskin a name customizations
        let b' ← r.reskin b name customizations
        pure (a' ++ d.toString ++ b')))
    ∧ ∀ w, Skin.IsRun w.toList →
        (∀ out, r.reskin w name customizations = .ok out ↔
          ∃ t skipped s, r.customized name customizations = .ok (t, skipped)
            ∧ Skin.ofTheme t = .ok s ∧ s.Becomes w.toList out.toList)
        ∧ ((∀ f : Skin.Form, f.IsProper → f.chars ≠ (splitVariants w.toList).2) →
          ∀ out, r.reskin w name customizations = .ok out → out = w) := by
  refine ⟨fun text => ?_, fun d hd a b => reskin_append_delimiter r name customizations hd a b,
    fun w hw => ?_⟩
  · constructor
    · rintro ⟨out, hout⟩
      obtain ⟨t, skipped, s, ht, hs, -⟩ := reskin_eq_ok_iff_wear.1 hout
      exact ⟨t, skipped, s, ht, hs⟩
    · rintro ⟨t, skipped, s, ht, hs⟩
      refine ⟨.ofList (s.wear text.toList), reskin_eq_ok_iff_wear.2 ⟨t, skipped, s, ht, hs, ?_⟩⟩
      rw [String.toList_ofList]
  · have htoken (out : String) : r.reskin w name customizations = .ok out ↔
        ∃ t skipped s, r.customized name customizations = .ok (t, skipped)
          ∧ Skin.ofTheme t = .ok s ∧ s.Becomes w.toList out.toList := by
      simp only [reskin_eq_ok_iff_wear, Skin.wear_eq_token hw, Skin.token_eq_iff]
    refine ⟨htoken, fun hforms out hout => ?_⟩
    obtain ⟨t, skipped, s, -, -, hbecomes⟩ := (htoken out).1 hout
    generalize hchars : out.toList = cs at hbecomes
    cases hbecomes with
    | exchanged hf hfchars => exact absurd hfchars (hforms _ hf)
    | kept => exact String.toList_injective hchars

/-- In the quiet theme yellow gives way to a blue, which is not exchanged in its turn. -/
theorem reskin_token_by_token_yellow :
    Skin.isDelimiter '"' = true ∧ Skin.IsRun "md:bg-yellow-500".toList
      ∧ (∃ t skipped s, builtin.customized (some "minimal") [] = .ok (t, skipped)
        ∧ Skin.ofTheme t = .ok s
        ∧ s.Becomes "md:bg-yellow-500".toList "md:bg-blue-500".toList)
      ∧ builtin.reskin "rounded-3xl\"md:bg-yellow-500" (some "minimal") []
        = .ok "rounded-xl\"md:bg-blue-500"
      ∧ (∀ f : Skin.Form, f.IsProper → f.chars ≠ (splitVariants "my-bg-blue-500".toList).2)
      ∧ builtin.reskin "my-bg-blue-500" (some "minimal") [] = .ok "my-bg-blue-500" := by
  have hd : Skin.isDelimiter '"' = true := by decide
  have hw : Skin.IsRun "md:bg-yellow-500".toList := Skin.isRun_of_any (by decide)
  obtain ⟨-, hlocal, htokens⟩ := reskin_token_by_token builtin (some "minimal") []
  have hyellow : builtin.reskin "md:bg-yellow-500" (some "minimal") [] = .ok "md:bg-blue-500" := rfl
  have hboth := hlocal '"' hd "rounded-3xl" "md:bg-yellow-500"
  have hplain : Skin.IsRun "my-bg-blue-500".toList := Skin.isRun_of_any (by decide)
  have hforms : ∀ f : Skin.Form, f.IsProper →
      f.chars ≠ (splitVariants "my-bg-blue-500".toList).2 := by
    intro f hf hchars
    obtain ⟨c, hc, hhead⟩ := Skin.Form.exists_head?_chars hf
    have hm : (splitVariants "my-bg-blue-500".toList).2.head? = some 'm' := by decide
    rw [hchars, hm] at hhead
    obtain rfl := Option.some.inj hhead
    cases f <;> simp [Skin.Form.leads] at hc
  obtain ⟨out, hout⟩ : ∃ out, builtin.reskin "my-bg-blue-500" (some "minimal") [] = .ok out :=
    ⟨_, rfl⟩
  obtain rfl := (htokens _ hplain).2 hforms out hout
  exact ⟨hd, hw, ((htokens _ hw).1 _).1 hyellow, hboth, hforms, hout⟩

end SiteTemplate.ThemeRegistry
