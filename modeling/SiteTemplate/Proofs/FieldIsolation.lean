import SiteTemplate.Proofs.SlotAgreement

/-!
# Fields and their neighbours

A field's value is found from its own declaration and the caller's data. Its neighbours matter in
one case only: where a check of one of them is impossible, the whole slot takes its fallbacks. So a
field has the value that it has alone exactly if all checks are possible or that value is the
fallback anyway.
-/

namespace SiteTemplate

variable {filler : SlotFiller} {slot : String} {d : UserData} {f : FieldDecl} {s : SlotDecl}

/-- The value of a field among the values of slots. -/
def FilledSlots.value? (filled : FilledSlots) (slot key : String) : Option Json :=
  (Entries.get? filled slot).bind fun values => Entries.get? values key

namespace FieldDecl

/-- The check of the value that is first considered is possible, and if it finds issues, they can be
told where that is asked for. -/
def Checkable (filler : SlotFiller) (slot : String) (d : UserData) (f : FieldDecl) : Prop :=
  ∃ issues, f.issues filler.engine (f.select slot d) "" = .ok issues
    ∧ (issues = [] ∨ filler.reject slot f issues = .ok ())

/-- The value of a field that shares its slot with no other: its own or, where a check is
impossible, the fallback. -/
def valueAlone (filler : SlotFiller) (slot : String) (d : UserData) (f : FieldDecl) : Json :=
  (f.fill filler slot d).toOption.getD f.fallback

theorem checkable_iff : f.Checkable filler slot d ↔ ∃ v, f.fill filler slot d = .ok v := by
  unfold Checkable fill
  cases hissues : f.issues filler.engine (f.select slot d) "" with
  | error e => simp [hissues, bind, Except.bind]
  | ok issues =>
    cases issues with
    | nil => simp [hissues, bind, Except.bind, pure, Except.pure]
    | cons i is =>
      cases hreject : filler.reject slot f (i :: is) <;>
        simp [hissues, hreject, bind, Except.bind, pure, Except.pure]

private theorem fill_eq_valueAlone (h : f.Checkable filler slot d) :
    f.fill filler slot d = .ok (f.valueAlone filler slot d) := by
  obtain ⟨v, hv⟩ := checkable_iff.1 h
  rw [valueAlone, hv]
  rfl

private theorem valueAlone_of_not_checkable (h : ¬ f.Checkable filler slot d) :
    f.valueAlone filler slot d = f.fallback := by
  rw [valueAlone]
  cases hfill : f.fill filler slot d with
  | error e => rfl
  | ok v => exact absurd (checkable_iff.2 ⟨v, hfill⟩) h

/-- What the caller wrote for the slot is considered before everything else, and it is kept if it
passes the checks. -/
theorem valueAlone_of_given {own v : Json} (hown : Entries.get? d.slots slot = some own)
    (hv : own.given? f.key = some v) (hclean : f.issues filler.engine v "" = .ok []) :
    f.valueAlone filler slot d = v := by
  have hselect : f.select slot d = v := by
    rw [select, hown, Option.bind_some, hv]
    rfl
  have hfill : f.fill filler slot d = .ok v := by
    rw [fill, hselect, hclean]
    rfl
  rw [valueAlone, hfill]
  rfl

end FieldDecl

namespace SlotDecl

/-- A slot with a single field. -/
def only (f : FieldDecl) (s : SlotDecl) : SlotDecl := { s with fields := [f] }

/-- Whether all checks of the values that are first considered are possible. -/
def Checkable (filler : SlotFiller) (slot : String) (d : UserData) (s : SlotDecl) : Prop :=
  ∀ f ∈ s.fields, f.Checkable filler slot d

theorem fill_of_checkable (hkeys : (s.fields.map (·.key)).Nodup) (h : s.Checkable filler slot d) :
    s.fill filler slot d = s.fields.map fun f => (f.key, f.valueAlone filler slot d) := by
  have hvalues : s.checkedValues filler slot d
      = .ok (s.fields.map fun f => (f.key, f.valueAlone filler slot d)) := by
    refine mapM_eq_ok_map fun f hf => ?_
    rw [f.fill_eq_valueAlone (h f hf)]
    rfl
  rw [fill, hvalues]
  exact Entries.ofList_eq_self (by rwa [Entries.keys, List.map_map])

theorem fill_of_not_checkable (hkeys : (s.fields.map (·.key)).Nodup)
    (h : ¬ s.Checkable filler slot d) :
    s.fill filler slot d = s.fields.map fun f => (f.key, f.fallback) := by
  rw [fill]
  cases hvalues : s.checkedValues filler slot d with
  | error e => exact Entries.ofList_eq_self (by rwa [fallbacks, Entries.keys, List.map_map])
  | ok values =>
    refine absurd (fun f hf => ?_) h
    obtain ⟨pair, -, hpair⟩ := exists_eq_ok_of_mapM_eq_ok hvalues hf
    obtain ⟨v, hv, -⟩ := map_eq_ok_iff.1 hpair
    exact FieldDecl.checkable_iff.2 ⟨v, hv⟩

private theorem fill_only (f : FieldDecl) (s : SlotDecl) :
    (s.only f).fill filler slot d = [(f.key, f.valueAlone filler slot d)] := by
  have hkeys : ((s.only f).fields.map (·.key)).Nodup := List.pairwise_singleton _ _
  by_cases h : (s.only f).Checkable filler slot d
  · rw [fill_of_checkable hkeys h]
    rfl
  · have hcheck : ¬ f.Checkable filler slot d := fun hf =>
      h (List.forall_mem_singleton.2 hf)
    rw [fill_of_not_checkable hkeys h, FieldDecl.valueAlone_of_not_checkable hcheck]
    rfl

end SlotDecl

namespace FilledSlots

variable {slots : Entries String SlotDecl} {filled : FilledSlots}

theorem value?_fillAndTell (h : fillAndTell filler slots d = .ok filled)
    (hslot : Entries.get? slots slot = some s) (key : String) :
    filled.value? slot key = Entries.get? (s.fill filler slot d) key := by
  obtain ⟨-, rfl⟩ := fillAndTell_eq_ok_iff.1 h
  rw [value?, fill, Entries.get?_map (fun slot s => SlotDecl.fill filler slot d s), hslot]
  rfl

end FilledSlots

/-- Where slots are filled, once with all fields of a slot and once with a single one of them, the
field has the same value exactly if all checks of the slot are possible or its value as the only
field is the fallback. So a value that the caller gives for the slot and that passes the checks of
its field is kept exactly under the same condition. -/
theorem value?_fill_eq_alone_iff {slots : Entries String SlotDecl} {filled alone : FilledSlots}
    (hslot : Entries.get? slots slot = some s) (hkeys : (s.fields.map (·.key)).Nodup)
    (hf : f ∈ s.fields) (hfilled : FilledSlots.fillAndTell filler slots d = .ok filled)
    (halone : FilledSlots.fillAndTell filler (Entries.put slot (s.only f) slots) d = .ok alone) :
    (filled.value? slot f.key = alone.value? slot f.key
      ↔ s.Checkable filler slot d ∨ alone.value? slot f.key = some f.fallback)
    ∧ ∀ own v, Entries.get? d.slots slot = some own → own.given? f.key = some v →
      f.issues filler.engine v "" = .ok [] →
        alone.value? slot f.key = some v
        ∧ (filled.value? slot f.key = some v ↔ s.Checkable filler slot d ∨ v = f.fallback) := by
  have hown : alone.value? slot f.key = some (f.valueAlone filler slot d) := by
    rw [FilledSlots.value?_fillAndTell halone (Entries.get?_put_self _ _ _), SlotDecl.fill_only]
    simp [Entries.get?]
  have hvalue : filled.value? slot f.key = some (f.valueAlone filler slot d)
      ↔ s.Checkable filler slot d ∨ f.valueAlone filler slot d = f.fallback := by
    rw [FilledSlots.value?_fillAndTell hfilled hslot]
    by_cases h : s.Checkable filler slot d
    · have hget : Entries.get? (s.fields.map fun f => (f.key, f.valueAlone filler slot d)) f.key
          = some (f.valueAlone filler slot d) := SlotDecl.get?_map_key hkeys hf
      simp [SlotDecl.fill_of_checkable hkeys h, hget, h]
    · have hget : Entries.get? (s.fields.map fun f => (f.key, f.fallback)) f.key
          = some f.fallback := SlotDecl.get?_map_key hkeys hf
      simp [SlotDecl.fill_of_not_checkable hkeys h, hget, h, eq_comm]
  refine ⟨?_, fun own v hgiven hv hclean => ?_⟩
  · rw [hown, hvalue, Option.some.injEq]
  · have hkept := FieldDecl.valueAlone_of_given hgiven hv hclean
    rw [hkept] at hown hvalue
    exact ⟨hown, hvalue⟩

/-- A title next to a count whose lower bound is a text. -/
def promoSlot : SlotDecl :=
  { fields := [{ key := "title" },
      { key := "count", type := .number, validators := [⟨.range, .obj [("min", "a")]⟩] }] }

/-- A caller who gives a title and a count. -/
def promoData : UserData := { slots := [("promo", .obj [("title", "Hi"), ("count", .int 3)])] }

/-- The count cannot be compared with its bound, so the title that the caller gives is kept where
the title is alone and is lost next to the count. -/
theorem value?_fill_promo :
    FilledSlots.fillAndTell { printer := .markup } [("promo", promoSlot)] promoData
      = .ok [("promo", [("title", .str ""), ("count", .int 0)])]
    ∧ FilledSlots.fillAndTell { printer := .markup }
        (Entries.put "promo" (promoSlot.only { key := "title" }) [("promo", promoSlot)]) promoData
      = .ok [("promo", [("title", .str "Hi")])] :=
  ⟨rfl, rfl⟩

/-- The title passes its checks and is lost all the same, so a check of the slot is impossible. -/
theorem value?_fill_eq_alone_iff_promo :
    ∃ alone, FilledSlots.fillAndTell {}
        (Entries.put "promo" (promoSlot.only { key := "title" }) [("promo", promoSlot)]) promoData
        = .ok alone
      ∧ alone.value? "promo" "title" = some (.str "Hi")
      ∧ ¬ promoSlot.Checkable {} "promo" promoData := by
  have hfilled : FilledSlots.fillAndTell {} [("promo", promoSlot)] promoData
      = .ok [("promo", [("title", .str ""), ("count", .int 0)])] := rfl
  have halone : FilledSlots.fillAndTell {}
      (Entries.put "promo" (promoSlot.only { key := "title" }) [("promo", promoSlot)]) promoData
      = .ok [("promo", [("title", .str "Hi")])] := rfl
  obtain ⟨-, hgiven⟩ := value?_fill_eq_alone_iff (f := { key := "title" }) rfl (by decide)
    List.mem_cons_self hfilled halone
  obtain ⟨hkept, hiff⟩ := hgiven _ (.str "Hi") rfl rfl rfl
  refine ⟨_, halone, hkept, fun hcheckable => ?_⟩
  have hlost := hiff.2 (.inl hcheckable)
  simp [FilledSlots.value?, Entries.get?] at hlost

end SiteTemplate
