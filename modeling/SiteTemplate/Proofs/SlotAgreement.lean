import SiteTemplate.Proofs.Traversal
import SiteTemplate.Slot.Fill

/-!
# Filled slots and their check

Slots are filled and checked by two passes over the same declarations. Whatever the caller wrote,
and also where a check is impossible, every declared field gets a value that is not null, and the
value is free of issues or is the fallback of its field. So where the fallbacks pass their own
checks, filled slots pass as a whole. What may keep slots from being filled is a notice about a slot
that cannot be printed.
-/

namespace SiteTemplate

private theorem StaticContent.isNull_of_get? {slot field : String} {v : Json}
    (h : StaticContent.get? slot field = some v) : v.isNull = false := by
  have htable : ∀ e ∈ StaticContent.slots, ∀ m ∈ e.2, m.2.isNull = false := by decide
  obtain ⟨fields, hslot, hfield⟩ := Option.bind_eq_some_iff.1 h
  exact htable _ (Entries.mem_of_get?_eq_some hslot) _ (Entries.mem_of_get?_eq_some hfield)

theorem Json.isNull_of_given? {key : String} {v w : Json} (h : v.given? key = some w) :
    w.isNull = false := by
  simpa using (Option.filter_eq_some_iff.1 h).2

namespace FieldDecl

variable {filler : SlotFiller} {engine : PatternEngine} {slot : String} {d : UserData}
  {f : FieldDecl} {v : Json}

/-- A value that a filled field may hold: it is not null, and it has no issues unless it is the
fallback. -/
def Settles (engine : PatternEngine) (f : FieldDecl) (v : Json) : Prop :=
  v.isNull = false ∧ (f.issues engine v "" = .ok [] ∨ v = f.fallback)

theorem isNull_fallback (f : FieldDecl) : f.fallback.isNull = false := by
  unfold fallback
  cases hdefault : f.default.isNull with
  | true => cases f.type <;> rfl
  | false => simpa using hdefault

theorem settles_fallback (engine : PatternEngine) (f : FieldDecl) :
    f.Settles engine f.fallback :=
  ⟨f.isNull_fallback, .inr rfl⟩

private theorem isNull_select (slot : String) (d : UserData) (f : FieldDecl) :
    (f.select slot d).isNull = false := by
  unfold select
  cases hgiven : ((Entries.get? d.slots slot).bind (Json.given? f.key)).or
      ((Json.given? f.key (.obj d.content)).or (StaticContent.get? slot f.key)) with
  | none => exact f.isNull_fallback
  | some v =>
    rw [Option.or_eq_some_iff, Option.or_eq_some_iff] at hgiven
    rcases hgiven with hslot | ⟨-, hcontent | ⟨-, hstatic⟩⟩
    · obtain ⟨own, -, hown⟩ := Option.bind_eq_some_iff.1 hslot
      exact Json.isNull_of_given? hown
    · exact Json.isNull_of_given? hcontent
    · exact StaticContent.isNull_of_get? hstatic

private theorem settles_of_fill (h : f.fill filler slot d = .ok v) : f.Settles filler.engine v := by
  obtain ⟨issues, hissues, hv⟩ := bind_eq_ok_iff.1 h
  cases issues with
  | nil =>
    obtain rfl : f.select slot d = v := Except.ok.inj hv
    exact ⟨f.isNull_select slot d, .inl hissues⟩
  | cons i is =>
    obtain ⟨-, -, hfallback⟩ := bind_eq_ok_iff.1 hv
    obtain rfl : f.fallback = v := Except.ok.inj hfallback
    exact f.settles_fallback filler.engine

private theorem joinIssues_eq_nil {rs : List (Except ImpossibleCheck (List FieldIssue))}
    (h : ∀ r ∈ rs, r = .ok []) : joinIssues rs = .ok [] := by
  induction rs with
  | nil => rfl
  | cons r rs ih =>
    rw [List.forall_mem_cons] at h
    rw [joinIssues, h.1, ih h.2]
    rfl

end FieldDecl

namespace SlotDecl

variable {filler : SlotFiller} {engine : PatternEngine} {s : SlotDecl}

/-- A slot gets one value for each of its fields, in order, also where a check is impossible. -/
theorem exists_fill_eq_map (filler : SlotFiller) (slot : String) (d : UserData)
    (h : (s.fields.map (·.key)).Nodup) :
    ∃ value : FieldDecl → Json, s.fill filler slot d = s.fields.map (fun f => (f.key, value f))
      ∧ ∀ f ∈ s.fields, f.Settles filler.engine (value f) := by
  have hofList (value : FieldDecl → Json) :
      Entries.ofList (s.fields.map fun f => (f.key, value f))
        = s.fields.map fun f => (f.key, value f) := by
    apply Entries.ofList_eq_self
    rwa [Entries.keys, List.map_map]
  unfold fill
  cases hchecked : s.checkedValues filler slot d with
  | error e => exact ⟨FieldDecl.fallback, hofList _, fun f _ => f.settles_fallback filler.engine⟩
  | ok values =>
    obtain ⟨g, rfl, hg⟩ := exists_eq_map_of_mapM_eq_ok hchecked
    have hfill : ∀ f ∈ s.fields, (g f).1 = f.key ∧ f.Settles filler.engine (g f).2 := by
      intro f hf
      have hmap := hg f hf
      cases hvalue : f.fill filler slot d with
      | error e =>
        rw [hvalue] at hmap
        cases hmap
      | ok v =>
        rw [hvalue] at hmap
        obtain hpair := Except.ok.inj hmap
        rw [← hpair]
        exact ⟨rfl, FieldDecl.settles_of_fill hvalue⟩
    have hmap : s.fields.map g = s.fields.map fun f => (f.key, (g f).2) :=
      List.map_congr_left fun f hf => Prod.ext (hfill f hf).1 rfl
    rw [hmap]
    exact ⟨fun f => (g f).2, hofList _, fun f hf => (hfill f hf).2⟩

theorem get?_map_key {value : FieldDecl → Json} (h : (s.fields.map (·.key)).Nodup) {f : FieldDecl}
    (hf : f ∈ s.fields) :
    Entries.get? (s.fields.map fun f => (f.key, value f)) f.key = some (value f) := by
  apply Entries.get?_eq_some_of_mem
  · rwa [Entries.keys, List.map_map]
  · exact List.mem_map.2 ⟨f, hf, rfl⟩

private theorem report_map {value : FieldDecl → Json} (hkeys : (s.fields.map (·.key)).Nodup)
    (h : ∀ f ∈ s.fields, f.issues engine (value f) "" = .ok []) :
    s.report engine (s.fields.map fun f => (f.key, value f)) = .ok {} := by
  have hissues : FieldDecl.joinIssues (s.fields.map fun f =>
      f.issues engine ((Entries.get? (s.fields.map fun f => (f.key, value f)) f.key).getD .null) "")
      = .ok [] := by
    apply FieldDecl.joinIssues_eq_nil
    intro r hr
    obtain ⟨f, hf, rfl⟩ := List.mem_map.1 hr
    rw [get?_map_key hkeys hf]
    exact h f hf
  have hextra : (Entries.keys (s.fields.map fun f => (f.key, value f))).filter
      (fun key => !s.fields.any (·.key == key)) = [] := by
    rw [List.filter_eq_nil_iff]
    intro key hkey
    rw [Entries.keys, List.map_map, List.mem_map] at hkey
    obtain ⟨f, hf, rfl⟩ := hkey
    simpa using ⟨f, hf, rfl⟩
  simp [report, hissues, hextra, bind, Except.bind, pure, Except.pure]

private theorem report_fill (slot : String) (d : UserData) (hkeys : (s.fields.map (·.key)).Nodup)
    (h : ∀ f ∈ s.fields, f.issues filler.engine f.fallback "" = .ok []) :
    s.report filler.engine (s.fill filler slot d) = .ok {} := by
  obtain ⟨value, hvalue, hsettles⟩ := s.exists_fill_eq_map filler slot d hkeys
  rw [hvalue]
  refine report_map hkeys fun f hf => ?_
  rcases (hsettles f hf).2 with hclean | hfallback
  · exact hclean
  · rw [hfallback]
    exact h f hf

end SlotDecl

namespace FilledSlots

variable {filler : SlotFiller} {slots : Entries String SlotDecl} {d : UserData}
  {filled : FilledSlots}

theorem fillAndTell_eq_ok_iff : fillAndTell filler slots d = .ok filled ↔
    filler.printer.Prints (notices filler slots d) ∧ filled = fill filler slots d := by
  unfold fillAndTell
  rw [bind_eq_ok_iff]
  constructor
  · rintro ⟨u, hprints, hfill⟩
    exact ⟨Printer.printAll_eq_ok_iff.1 hprints, (Except.ok.inj hfill).symm⟩
  · rintro ⟨hprints, rfl⟩
    exact ⟨(), Printer.printAll_eq_ok_iff.2 hprints, rfl⟩

/-- There is a notice about each slot for which a check is impossible, and one at the end if the
filler is verbose. -/
theorem prints_notices_iff : filler.printer.Prints (notices filler slots d) ↔
    (∀ slot s e, (slot, s) ∈ slots → s.checkedValues filler slot d = .error e →
      filler.printer.fault? (SlotFiller.failure slot e) = none)
    ∧ (filler.verbose = true →
      filler.printer.fault? (SlotFiller.closing slots.length) = none) := by
  rw [Printer.Prints, notices, List.forall_mem_append]
  refine and_congr ⟨fun h slot s e hs he => ?_, fun h n hn => ?_⟩ ?_
  · refine h _ (List.mem_flatMap.2 ⟨(slot, s), hs, ?_⟩)
    simp [SlotDecl.notices, he]
  · obtain ⟨⟨slot, s⟩, hs, hn⟩ := List.mem_flatMap.1 hn
    simp only [SlotDecl.notices] at hn
    cases he : s.checkedValues filler slot d with
    | ok values => simp [he] at hn
    | error e =>
      obtain rfl : n = SlotFiller.failure slot e := by simpa [he] using hn
      exact h slot s e hs he
  · cases filler.verbose <;> simp

theorem keys_fill : Entries.keys (fill filler slots d) = Entries.keys slots := by
  simp [Entries.keys, fill]

theorem get?_fill (hslots : (Entries.keys slots).Nodup) {e : String × SlotDecl} (he : e ∈ slots) :
    Entries.get? (fill filler slots d) e.1 = some (e.2.fill filler e.1 d) := by
  apply Entries.get?_eq_some_of_mem
  · rwa [keys_fill]
  · exact List.mem_map.2 ⟨e, he, rfl⟩

private theorem exists_reports_fill (hslots : (Entries.keys slots).Nodup)
    (hfields : ∀ e ∈ slots, (e.2.fields.map (·.key)).Nodup)
    (hfallbacks : ∀ e ∈ slots, ∀ f ∈ e.2.fields,
      f.issues filler.engine f.fallback "" = .ok []) :
    ∃ reports, FilledSlots.reports filler.engine slots (fill filler slots d) = .ok reports
      ∧ Entries.keys reports = Entries.keys slots
      ∧ ∀ e ∈ reports, e.2.isValid = true ∧ e.2.errors = [] ∧ e.2.missing = []
        ∧ e.2.warnings e.1 = [] := by
  have hreport : ∀ e ∈ slots, (e.2.report filler.engine
      ((Entries.get? (fill filler slots d) e.1).getD [])).map (e.1, ·)
      = .ok (e.1, ({} : SlotReport)) := by
    intro e he
    rw [get?_fill hslots he, Option.getD_some,
      e.2.report_fill e.1 d (hfields e he) (hfallbacks e he)]
    rfl
  refine ⟨_, mapM_eq_ok_map hreport, ?_, ?_⟩
  · simp [Entries.keys]
  · intro e he
    obtain ⟨e', -, rfl⟩ := List.mem_map.1 he
    exact ⟨rfl, rfl, rfl, rfl⟩

end FilledSlots

/-- Slots are filled exactly if what is told about them can be printed: that a check of a slot is
impossible, and, if the filler is verbose, that the work is done. Slots that are filled agree with
their check. Every declared slot has exactly its declared fields, none of them null, and each holds
a value without issues or its fallback; where all fallbacks are without issues, nothing is found in
the filled slots. -/
theorem fill_agrees_with_reports {slots : Entries String SlotDecl}
    (hslots : (Entries.keys slots).Nodup)
    (hfields : ∀ e ∈ slots, (e.2.fields.map (·.key)).Nodup) (filler : SlotFiller) (d : UserData) :
    ((∃ filled, FilledSlots.fillAndTell filler slots d = .ok filled) ↔
      (∀ slot s e, (slot, s) ∈ slots → s.checkedValues filler slot d = .error e →
        filler.printer.fault? (SlotFiller.failure slot e) = none)
      ∧ (filler.verbose = true →
        filler.printer.fault? (SlotFiller.closing slots.length) = none))
    ∧ ∀ filled, FilledSlots.fillAndTell filler slots d = .ok filled →
      Entries.keys filled = Entries.keys slots
      ∧ (∀ slot s, (slot, s) ∈ slots →
        ∃ values, Entries.get? filled slot = some values
          ∧ Entries.keys values = s.fields.map (·.key)
          ∧ ∀ f ∈ s.fields, ∃ v, Entries.get? values f.key = some v ∧ v.isNull = false
            ∧ (f.issues filler.engine v "" = .ok [] ∨ v = f.fallback))
      ∧ ((∀ e ∈ slots, ∀ f ∈ e.2.fields, f.issues filler.engine f.fallback "" = .ok []) →
        ∃ reports, FilledSlots.reports filler.engine slots filled = .ok reports
          ∧ Entries.keys reports = Entries.keys slots
          ∧ ∀ e ∈ reports, e.2.isValid = true ∧ e.2.errors = [] ∧ e.2.missing = []
            ∧ e.2.warnings e.1 = []) := by
  refine ⟨?_, fun filled hfilled => ?_⟩
  · simp only [FilledSlots.fillAndTell_eq_ok_iff, exists_and_left, exists_eq, and_true,
      FilledSlots.prints_notices_iff]
  · obtain ⟨-, rfl⟩ := FilledSlots.fillAndTell_eq_ok_iff.1 hfilled
    refine ⟨FilledSlots.keys_fill, fun slot s hs => ?_,
      FilledSlots.exists_reports_fill hslots hfields⟩
    obtain ⟨value, hvalue, hsettles⟩ := s.exists_fill_eq_map filler slot d (hfields _ hs)
    refine ⟨_, FilledSlots.get?_fill hslots hs, ?_, fun f hf => ⟨value f, ?_, hsettles f hf⟩⟩
    · simp [hvalue, Entries.keys]
    · rw [hvalue]
      exact SlotDecl.get?_map_key (hfields _ hs) hf

/-- A slot with a bounded title, and one with a switch. -/
def openingSlots : Entries String SlotDecl :=
  [("home", { fields := [{ key := "heroTitle", required := true, default := "Hello",
                           validators := [⟨.maxLength, .int 80⟩] }] }),
   ("shop", { fields := [{ key := "open", type := .boolean }] })]

/-- The switch is given a text, so it falls back, and nothing is found in the filled slots. -/
theorem fill_agrees_with_reports_opening :
    ∃ filled reports, FilledSlots.fillAndTell {} openingSlots { content := [("open", "yes")] }
        = .ok filled
      ∧ FilledSlots.reports Pattern.engine openingSlots filled = .ok reports
      ∧ Entries.keys reports = ["home", "shop"] := by
  have hfallbacks : ∀ e ∈ openingSlots, ∀ f ∈ e.2.fields,
      f.issues Pattern.engine f.fallback "" = .ok [] := by
    simp only [openingSlots, List.forall_mem_cons]
    refine ⟨⟨?_, by simp⟩, ⟨?_, by simp⟩, by simp⟩ <;> rfl
  obtain ⟨hreturns, hagrees⟩ := @fill_agrees_with_reports openingSlots (by decide) (by decide)
    {} { content := [("open", "yes")] }
  obtain ⟨filled, hfilled⟩ := hreturns.2 ⟨fun _ _ _ _ _ => rfl, fun _ => rfl⟩
  obtain ⟨-, -, hreports⟩ := hagrees filled hfilled
  obtain ⟨reports, hreports, hkeys, -⟩ := hreports hfallbacks
  exact ⟨filled, reports, hfilled, hreports, hkeys⟩

/-- A number is compared with a text in a slot whose name reads as a closing tag, so the notice
about it cannot be printed. -/
theorem fillAndTell_closing_tag :
    FilledSlots.fillAndTell { printer := .markup }
      [("[/x]", { fields := [{ key := "count", type := .number
                               validators := [⟨.range, .obj [("min", "a")]⟩] }] })]
      { slots := [("[/x]", .obj [("count", .int 3)])] }
    = .error "closing tag '[/x]' at position 16 doesn't match any open tag" := by
  rfl

end SiteTemplate
