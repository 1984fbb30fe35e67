import SiteTemplate.Proofs.Refusals

/-!
# Accepted overrides

Reading a customization collects, category by category and group by group, the members that are
accepted for each table of a theme, and the places of those that are not. What is accepted is said
here for each table from the written object alone: the number of a step with its colour, a name with
a text, a whole number or a number.
-/

namespace SiteTemplate.Customization

variable {α β : Type}

/-- What an object gives: its members that are accepted, in order. -/
def accepted (accept : String × Json → Option β) : Json → List β
  | .obj ms => ms.filterMap accept
  | _ => []

/-- The places that are skipped: of the members of an object that are not accepted, or of a value
that is no object. -/
def refused (place : String) (accept : String × Json → Option β) : Json → List String
  | .obj ms => (ms.filter fun m => (accept m).isNone).map fun m => place ++ "." ++ m.1
  | _ => [place]

/-- The colour of a step. -/
def color? : String × Json → Option (Int × String)
  | (key, .str color) =>
    match step? key with
    | some (.ok step) => some (step, color)
    | _ => none
  | _ => none

theorem color?_eq_some_iff {m : String × Json} {step : Int} {color : String} :
    color? m = some (step, color) ↔ step? m.1 = some (.ok step) ∧ m.2 = .str color := by
  obtain ⟨key, v⟩ := m
  cases v with
  | str s =>
    simp only [color?, Json.str.injEq]
    rcases step? key with _ | e | n <;> simp
  | _ => simp [color?]

/-- A name with its value. -/
def named? (accept : Json → Option α) (m : String × Json) : Option (String × α) :=
  (accept m.2).map (m.1, ·)

/-- A number that a field for line heights can hold. -/
def line? (v : Json) : Option Binary64 := (height? v).bind Reading.toOption

/-- The groups of a category, if it is an object. -/
def groupsOf (c : Members) (category : String) : Members :=
  ((Entries.get? c category).bind Json.members?).getD []

/-- What the groups under the names of one table give, one after the other. -/
def given (c : Members) (category : String) (names : String → Bool)
    (accept : String × Json → Option β) : List β :=
  (groupsOf c category).flatMap fun g => if names g.1 then accepted accept g.2 else []

/-- The accepted colours of a ramp. -/
def colorSettings (c : Members) (g : ColorGroup) : List (Int × String) :=
  given c "colors" (· == g.name) color?

/-- The colours by their meaning, which are accepted whatever they are. -/
def semanticSettings (c : Members) : Members := given c "colors" (· == "semantic") some

/-- What is accepted for a table of the typography under all spellings of its name. -/
def fontSettings (c : Members) (table : String) (accept : Json → Option α) : List (String × α) :=
  given c "typography" (plainName · == table) (named? accept)

/-- What is accepted for a scale. -/
def scaleSettings (c : Members) (key : Key) : List (String × String) :=
  accepted (named? Json.text?) (scaleValue c key)

/-- Overrides table by table. -/
def collect (cs : List Customization) : Customization where
  primary := cs.flatMap (·.primary)
  secondary := cs.flatMap (·.secondary)
  accent := cs.flatMap (·.accent)
  neutral := cs.flatMap (·.neutral)
  semantic := cs.flatMap (·.semantic)
  fontFamily := cs.flatMap (·.fontFamily)
  fontSize := cs.flatMap (·.fontSize)
  fontWeight := cs.flatMap (·.fontWeight)
  lineHeight := cs.flatMap (·.lineHeight)
  spacing := cs.flatMap (·.spacing)
  borderRadius := cs.flatMap (·.borderRadius)
  shadows := cs.flatMap (·.shadows)
  breakpoints := cs.flatMap (·.breakpoints)
  skipped := cs.flatMap (·.skipped)

theorem append_eq (a b : Customization) : a ++ b = append a b := rfl

theorem append_assoc (a b c : Customization) : a ++ b ++ c = a ++ (b ++ c) := by
  simp [append_eq, append]

private theorem append_empty (a : Customization) : a ++ ({} : Customization) = a := by
  simp [append_eq, append]

theorem empty_append (a : Customization) : ({} : Customization) ++ a = a := rfl

private theorem foldl_append_eq (cs : List Customization) (a : Customization) :
    cs.foldl (· ++ ·) a = a ++ collect cs := by
  induction cs generalizing a with
  | nil => exact (append_empty a).symm
  | cons c cs ih =>
    have hcollect : collect (c :: cs) = c ++ collect cs := rfl
    rw [List.foldl_cons, ih, append_assoc, hcollect]

private theorem concat_eq_collect (cs : List Customization) : concat cs = collect cs := by
  rw [concat, foldl_append_eq, empty_append]

/-- What one group of colours gives. -/
def colorPart (g : String × Json) : Customization where
  primary := if g.1 == "primary" then accepted color? g.2 else []
  secondary := if g.1 == "secondary" then accepted color? g.2 else []
  accent := if g.1 == "accent" then accepted color? g.2 else []
  neutral := if g.1 == "neutral" then accepted color? g.2 else []
  semantic := if g.1 == "semantic" then accepted some g.2 else []
  skipped :=
    if (ColorGroup.ofName? g.1).isSome then refused ("colors." ++ g.1) color? g.2
    else if g.1 == "semantic" then refused ("colors." ++ g.1) some g.2
    else []

/-- The places that one group of the typography skips. -/
def fontSkipped (g : String × Json) : List String :=
  match plainName g.1 with
  | "font_family" | "font_size" => refused ("typography." ++ g.1) (named? Json.text?) g.2
  | "font_weight" => refused ("typography." ++ g.1) (named? whole?) g.2
  | "line_height" => refused ("typography." ++ g.1) (named? height?) g.2
  | _ => []

/-- What one group of the typography gives. -/
def fontPart (g : String × Json) : Customization where
  fontFamily := if plainName g.1 == "font_family" then accepted (named? Json.text?) g.2 else []
  fontSize := if plainName g.1 == "font_size" then accepted (named? Json.text?) g.2 else []
  fontWeight := if plainName g.1 == "font_weight" then accepted (named? whole?) g.2 else []
  lineHeight := if plainName g.1 == "line_height" then accepted (named? height?) g.2 else []
  skipped := fontSkipped g

theorem ofName?_eq_some_iff {s : String} {g : ColorGroup} :
    ColorGroup.ofName? s = some g ↔ s = g.name := by
  constructor
  · intro h
    unfold ColorGroup.ofName? at h
    have hbeq := List.find?_some h
    exact (eq_of_beq hbeq).symm
  · rintro rfl
    cases g <;> rfl

section Members

variable {accept : String × Json → Option β} {m : String × Json} {ms : Members} {place : String}

private theorem accepted_cons_of_eq_some {b : β} (h : accept m = some b) :
    accepted accept (.obj (m :: ms)) = b :: accepted accept (.obj ms) :=
  List.filterMap_cons_some h

private theorem accepted_cons_of_eq_none (h : accept m = none) :
    accepted accept (.obj (m :: ms)) = accepted accept (.obj ms) :=
  List.filterMap_cons_none h

private theorem refused_cons_of_eq_some {b : β} (h : accept m = some b) :
    refused place accept (.obj (m :: ms)) = refused place accept (.obj ms) := by
  simp [refused, h]

private theorem refused_cons_of_eq_none (h : accept m = none) :
    refused place accept (.obj (m :: ms))
      = (place ++ "." ++ m.1) :: refused place accept (.obj ms) := by
  simp [refused, h]

end Members

private theorem exists_of_ofRamp_cons {override : List (Int × String) → Customization}
    {m : String × Json}
    {ramp : Members} {place : String} {x : Customization} (hm : color? m = none)
    (h : ofRamp place override (m :: ramp) = .ok x) :
    ∃ more, ofRamp place override ramp = .ok more ∧ x = skip (place ++ "." ++ m.1) ++ more := by
  obtain ⟨key, v⟩ := m
  unfold ofRamp at h
  split at h
  · next step color hstep =>
    rw [color?_eq_some_iff.2 ⟨hstep, rfl⟩] at hm
    cases hm
  · cases h
  · obtain ⟨more, hmore, hx⟩ := bind_eq_ok_iff.1 h
    exact ⟨more, hmore, (Except.ok.inj hx).symm⟩

private theorem ofRamp_eq {place : String} {g : ColorGroup} {ramp : Members} {x : Customization}
    (h : ofRamp place (rampSettings g) ramp = .ok x) :
    x = { rampSettings g (accepted color? (.obj ramp)) with
      skipped := refused place color? (.obj ramp) } := by
  induction ramp generalizing x with
  | nil =>
    obtain rfl := Except.ok.inj h
    cases g <;> rfl
  | cons m ramp ih =>
    cases hm : color? m with
    | some setting =>
      obtain ⟨step, color⟩ := setting
      obtain ⟨key, v⟩ := m
      obtain ⟨hstep, rfl⟩ := color?_eq_some_iff.1 hm
      simp only [ofRamp, hstep, bind_eq_ok_iff] at h
      obtain ⟨more, hmore, hx⟩ := h
      obtain rfl := Except.ok.inj hx
      rw [accepted_cons_of_eq_some hm, refused_cons_of_eq_some hm, ih hmore]
      cases g <;> rfl
    | none =>
      obtain ⟨more, hmore, rfl⟩ := exists_of_ofRamp_cons hm h
      rw [accepted_cons_of_eq_none hm, refused_cons_of_eq_none hm, ih hmore]
      cases g <;> rfl

private theorem ofColorGroup_eq {g : String × Json} {x : Customization}
    (h : ofColorGroup g.1 g.2 = .ok x) : x = colorPart g := by
  obtain ⟨group, v⟩ := g
  unfold ofColorGroup at h
  cases hgroup : ColorGroup.ofName? group with
  | some g =>
    obtain rfl := ofName?_eq_some_iff.1 hgroup
    cases v with
    | obj ramp =>
      rw [hgroup] at h
      rw [ofRamp_eq h]
      cases g <;> rfl
    | _ =>
      rw [hgroup] at h
      obtain rfl := Except.ok.inj h
      cases g <;> rfl
  | none =>
    have hne (g : ColorGroup) : (group == g.name) = false :=
      beq_false_of_ne fun hname => by simp [ofName?_eq_some_iff.2 hname] at hgroup
    have hprimary : (group == "primary") = false := hne .primary
    have hsecondary : (group == "secondary") = false := hne .secondary
    have haccent : (group == "accent") = false := hne .accent
    have hneutral : (group == "neutral") = false := hne .neutral
    rw [hgroup] at h
    by_cases hsemantic : group = "semantic"
    · subst hsemantic
      cases v <;> obtain rfl := Except.ok.inj h <;>
        simp [colorPart, hgroup, accepted, refused, skip]
    · cases v <;> obtain rfl := Except.ok.inj h <;>
        simp [colorPart, hgroup, hsemantic, hprimary, hsecondary, haccent, hneutral]

private theorem ofColors_eq {groups : Members} {x : Customization} (h : ofColors groups = .ok x) :
    x = collect (groups.map colorPart) := by
  induction groups generalizing x with
  | nil =>
    obtain rfl := Except.ok.inj h
    rfl
  | cons g groups ih =>
    simp only [ofColors, bind_eq_ok_iff] at h
    obtain ⟨first, hfirst, more, hmore, hx⟩ := h
    obtain rfl := Except.ok.inj hx
    rw [ofColorGroup_eq hfirst, ih hmore]
    rfl

theorem ofEntries_eq (place : String) (accept : Json → Option α)
    (override : List (String × α) → Customization) (hempty : override [] = {}) (v : Json) :
    ofEntries place accept override v
      = override (accepted (named? accept) v) ++ { skipped := refused place (named? accept) v } := by
  cases v with
  | obj ms =>
    simp only [ofEntries, accepted, refused, named?, Option.isNone_map]
    rfl
  | _ => simp [ofEntries, accepted, refused, hempty, empty_append, skip]

private theorem ofTypographyGroup_eq (g : String × Json) :
    ofTypographyGroup g.1 g.2 = fontPart g := by
  obtain ⟨group, v⟩ := g
  unfold ofTypographyGroup fontPart fontSkipped
  split
  case h_5 => simp_all
  all_goals
    next hname => simp [hname, ofEntries_eq, append_eq, append]

/-- The places that a scale skips. -/
def scaleSkipped (c : Members) (key : Key) : List String :=
  match scaleValue c key with
  | .null => []
  | v => refused key.wire (named? Json.text?) v

private theorem ofScale_eq (c : Members) (key : Key)
    (override : List (String × String) → Customization)
    (hempty : override [] = {}) :
    ofScale c key override
      = override (scaleSettings c key) ++ { skipped := scaleSkipped c key } := by
  unfold ofScale scaleSettings scaleSkipped
  cases scaleValue c key with
  | null => simp [accepted, hempty, empty_append]
  | _ => exact ofEntries_eq _ _ _ hempty _

theorem categoryMembers_eq (c : Members) (category : String) :
    categoryMembers c category =
      ({ skipped := (categoryMembers c category).1.skipped }, groupsOf c category) := by
  unfold categoryMembers groupsOf
  cases Entries.get? c category with
  | none => rfl
  | some v => cases v <;> simp [Json.members?, skip] <;> split <;> rfl

/-- The places that are skipped among the colours. -/
def colorsSkipped (c : Members) : List String :=
  (categoryMembers c "colors").1.skipped
    ++ (groupsOf c "colors").flatMap fun g => (colorPart g).skipped

/-- The places that are skipped in the other categories. -/
def othersSkipped (c : Members) : List String :=
  (categoryMembers c "typography").1.skipped
    ++ (groupsOf c "typography").flatMap fontSkipped
    ++ scaleSkipped c (.single "spacing")
    ++ scaleSkipped c ⟨"border_radius", "borderRadius"⟩
    ++ scaleSkipped c (.single "shadows")
    ++ scaleSkipped c (.single "breakpoints")

/-- What is read is what is accepted. -/
theorem read_eq {c : Members} {x : Customization} (h : read c = .ok x) :
    x = { primary := colorSettings c .primary
          secondary := colorSettings c .secondary
          accent := colorSettings c .accent
          neutral := colorSettings c .neutral
          semantic := semanticSettings c
          fontFamily := fontSettings c "font_family" Json.text?
          fontSize := fontSettings c "font_size" Json.text?
          fontWeight := fontSettings c "font_weight" whole?
          lineHeight := fontSettings c "line_height" height?
          spacing := scaleSettings c (.single "spacing")
          borderRadius := scaleSettings c ⟨"border_radius", "borderRadius"⟩
          shadows := scaleSettings c (.single "shadows")
          breakpoints := scaleSettings c (.single "breakpoints")
          skipped := colorsSkipped c ++ othersSkipped c } := by
  rw [read, categoryMembers_eq c "colors", categoryMembers_eq c "typography"] at h
  obtain ⟨colors, hcolors, hx⟩ := bind_eq_ok_iff.1 h
  obtain rfl := Except.ok.inj hx
  have hfaces : (groupsOf c "typography").map (fun g => ofTypographyGroup g.1 g.2)
      = (groupsOf c "typography").map fontPart := List.map_congr_left fun g _ =>
    ofTypographyGroup_eq g
  have hnone (gs : Members) : gs.flatMap (fun _ => ([] : List (String × String))) = [] := by simp
  rw [concat_eq_collect, ofColors_eq hcolors, hfaces]
  simp [collect, hnone, ofScale_eq, append_eq, append, List.flatMap_map, colorPart, fontPart,
    colorSettings, semanticSettings, fontSettings, given, ColorGroup.name, colorsSkipped,
    othersSkipped]

end SiteTemplate.Customization
