import SiteTemplate.Proofs.FileByFile
import SiteTemplate.Proofs.ModelAnswers
import SiteTemplate.Proofs.Segments
import SiteTemplate.Proofs.SlotAgreement

/-!
# Slots on the page

A slot form names a slot and one of its fields by a path of two segments. Where the content model is
not asked, the form is replaced by the value that the manifest reports for the field: the path leads
there and nowhere else, since a declared field always has a value that is not null.
-/

namespace SiteTemplate

namespace Placeholder

/-- A name that can be a segment of a slot path. -/
def IsPathName (name : String) : Prop := name ≠ "" ∧ ∀ c ∈ name.toList, isPathChar c = true

/-- A name with which a slot path can begin. -/
def IsSlotName (name : String) : Prop :=
  IsPathName name ∧ name.toList.head?.any isPathStart = true

variable {slot field : String}

private theorem IsPathName.toList_ne_nil (h : IsPathName field) : field.toList ≠ [] :=
  fun hnil => h.1 (String.toList_eq_nil_iff.1 hnil)

theorem IsPathName.not_mem_dot (h : IsPathName field) : '.' ∉ field.toList :=
  fun hdot => ne_dot_of_isPathChar (h.2 _ hdot) rfl

theorem IsPathName.trim_eq_self (h : IsPathName field) :
    Text.trim field.toList = field.toList := by
  apply Text.trim_eq_self
  intro c hc
  by_contra hblank
  have hpart := isPathPart_of_isBlank (Bool.not_eq_false _ ▸ hblank)
  simp [isPathPart, h.2 c hc] at hpart

/-- The path that leads to a field of a slot. -/
def fieldPath (slot field : String) : List Char := slot.toList ++ '.' :: field.toList

theorem slotPath_fieldPath (hslot : IsSlotName slot) (hfield : IsPathName field) :
    SlotPath (fieldPath slot field) := by
  obtain ⟨⟨hne, hchars⟩, hstart⟩ := hslot
  cases hcs : slot.toList with
  | nil => exact absurd hcs (IsPathName.toList_ne_nil ⟨hne, hchars⟩)
  | cons c cs =>
    rw [hcs] at hstart hchars
    refine ⟨c, cs, [field.toList], by simpa using hstart, ?_, ?_, by simp [fieldPath, hcs]⟩
    · exact fun x hx => hchars x (List.mem_cons_of_mem _ hx)
    · simpa using ⟨hfield.1, hfield.2⟩

private theorem pathSegments_fieldPath (hslot : IsPathName slot) (hfield : IsPathName field) :
    Json.pathSegments (.ofList (fieldPath slot field)) = [slot, field] := by
  have hsegments : ∀ s ∈ [field.toList], '.' ∉ s := by simpa using hfield.not_mem_dot
  have hsplit := splitOnP_dot_append hslot.not_mem_dot hsegments
  simp only [List.flatMap_cons, List.flatMap_nil, List.append_nil] at hsplit
  simp only [Json.pathSegments, String.toList_ofList, fieldPath, hsplit, List.map_cons,
    List.map_nil, hslot.trim_eq_self, hfield.trim_eq_self, String.ofList_toList]

private theorem noted_of_raw {text file : String} {x : Placeholder} {w : Written}
    (hx : .marker x ∈ segments text file) (hw : w.Proper) (hraw : x.raw.toList = w.chars) :
    x.kind = w.form.kind ∧ x.key = w.form.key? := by
  obtain ⟨w', hw', hraw', hkind, hkey⟩ := exists_written_of_mem_segments hx
  -- Reading gives both forms back, so they are the same.
  have hread := Form.read?_chars hw' []
  rw [← hraw', hraw, Form.read?_chars hw] at hread
  obtain ⟨hform, -⟩ := Prod.mk.inj (Option.some.inj hread)
  exact hform ▸ ⟨hkind, hkey⟩

end Placeholder

open Placeholder

variable {slot field : String}

theorem FilledSlots.get?_toJson {filled : FilledSlots} {values : Members}
    (h : Entries.get? filled slot = some values) :
    Entries.get? filled.toJson slot = some (.obj values) := by
  rw [toJson, Entries.mapValues, Entries.get?_map (fun _ => Json.obj), h]
  rfl

private theorem FilledSlots.present?_fieldPath {filled : FilledSlots} {values : Members} {v : Json}
    (hslot : IsPathName slot) (hfield : IsPathName field)
    (hvalues : Entries.get? filled slot = some values)
    (hv : Entries.get? values field = some v) (hpresent : v.isNull = false) :
    (Json.obj filled.toJson).present? (.ofList (fieldPath slot field)) = .ok (some v) := by
  have hstep : (Json.obj filled.toJson).stepInto? slot = .ok (some (.obj values)) := by
    rw [Json.stepInto?, if_neg hslot.1, get?_toJson hvalues]
  have hstepField : (Json.obj values).stepInto? field = .ok (some v) := by
    rw [Json.stepInto?, if_neg hfield.1, hv]
  simp only [Json.present?, Json.at?, pathSegments_fieldPath hslot hfield, Json.follow, hstep,
    hstepField, Except.map, Option.filter_some, hpresent, Bool.not_false, if_true]

private theorem Fallback.value_of_present? {brand text : String} {q : Request} {v : Json}
    (hkind : q.placeholder.kind = .slot)
    (h : (Json.obj q.filledSlots).present? (key q) = .ok (some v)) (htext : v.paste? = some text) :
    value brand q = .ok text := by
  simp only [value, hkind, Fallback.slot, found, h, pasted, htext]

private theorem Resolver.resolveRequest_of_fallback {r : Resolver} {q : Request} {v : String}
    (hask : r.mayAsk q.userData = false) (h : Fallback.value r.defaultBrand q = .ok v) :
    r.resolveRequest r.defaultSteps q = .ok ⟨v, "fallback"⟩ := by
  have hstep : r.fallbackStep q = .resolved ⟨v, "fallback"⟩ := by rw [fallbackStep, h]
  rw [resolveRequest_of_unanswered (unanswered_of_mayAsk_false hask),
    resolveRequest_of_resolved hstep]

private theorem SlotDecl.exists_get?_fill {slots : Entries String SlotDecl} {decl : SlotDecl}
    {f : FieldDecl} (filler : SlotFiller) (d : UserData)
    (hdecl : Entries.get? slots slot = some decl)
    (hkeys : (decl.fields.map (·.key)).Nodup) (hf : f ∈ decl.fields) :
    ∃ values v, Entries.get? (FilledSlots.fill filler slots d) slot = some values
      ∧ Entries.get? values f.key = some v ∧ v.isNull = false := by
  obtain ⟨value, hvalue, hsettles⟩ := decl.exists_fill_eq_map filler slot d hkeys
  refine ⟨_, value f, ?_, get?_map_key hkeys hf, (hsettles f hf).1⟩
  rw [FilledSlots.fill, Entries.get?_map (fun slot s => SlotDecl.fill filler slot d s), hdecl,
    ← hvalue]
  rfl

namespace Processor

variable {p : Processor} {template : Supplied Template} {data : Supplied UserData}
  {generatedAt : String} {t : Template} {d : UserData} {s : Setting} {skipped : List String}
  {project : Project}

theorem filled_of_setting (h : p.setting t d = .ok (s, skipped)) :
    s.filled = FilledSlots.fill p.filler t.initialVersion.slots d := by
  obtain ⟨theme, -, rfl⟩ := setting_eq_ok_iff.1 h
  rfl

/-- The value of a placeholder of a run, with the step that finds it. -/
def resolution (p : Processor) (s : Setting) (x : Placeholder) : Except String Resolution :=
  p.resolver.resolveRequest p.resolver.defaultSteps (p.request s x)

private theorem resolution_of_fieldPath {x : Placeholder} {values : Members} {v : Json}
    {text : String}
    (hask : p.resolver.mayAsk s.data = false) (hslot : IsPathName slot) (hfield : IsPathName field)
    (hvalues : Entries.get? s.filled slot = some values)
    (hv : Entries.get? values field = some v) (hpresent : v.isNull = false)
    (htext : v.paste? = some text) (hkind : x.kind = .slot)
    (hkey : x.key = some (.ofList (fieldPath slot field))) :
    p.resolution s x = .ok ⟨text, "fallback"⟩ := by
  have hfound : (Json.obj (p.request s x).filledSlots).present? (Fallback.key (p.request s x))
      = .ok (some v) := by
    have hkey' : Fallback.key (p.request s x) = .ofList (fieldPath slot field) := by
      change x.key.getD "" = _
      rw [hkey, Option.getD_some]
    rw [hkey']
    exact FilledSlots.present?_fieldPath hslot hfield hvalues hv hpresent
  exact Resolver.resolveRequest_of_fallback hask (Fallback.value_of_present? hkind hfound htext)

/-- Slots reach the page unchanged. Where the content model is not asked, every form of a declared
field, in every text source and with any blanks in its braces, is replaced by the value that the
manifest holds for the field; the files are the skins of the texts that arise so. -/
theorem slot_values_reach_page (h : p.run template data generatedAt = .ok project)
    (hoff : ∀ d, readUserData "" data = .ok d → p.resolver.mayAsk d = false) :
    ∃ t s, acceptTemplate template = .ok t ∧
      (∃ file : SourceFile → ProcessedFile,
        project.files = t.initialVersion.sourceFiles.map file
        ∧ ∀ source ∈ t.initialVersion.sourceFiles, source.encoding = .utf8 →
          ∃ value : Placeholder → String,
            (∀ x ∈ inText source.content source.path,
              (p.resolution s x).map (·.value) = .ok (value x))
            ∧ p.registry.reskin (Resolver.fillIn value source.content source.path).1 s.data.theme
              s.data.customizations = .ok (file source).content) ∧
      ∀ slot decl, Entries.get? t.initialVersion.slots slot = some decl → IsSlotName slot →
        (decl.fields.map (·.key)).Nodup → ∀ f ∈ decl.fields, IsPathName f.key →
        ∃ values v, Entries.get? project.manifest.slots slot = some (.obj values)
          ∧ Entries.get? values f.key = some v ∧ v.isNull = false
          ∧ ∀ text, v.paste? = some text →
            ∀ source ∈ t.initialVersion.sourceFiles, source.encoding = .utf8 →
            ∀ x ∈ inText source.content source.path,
            ∀ before after, (∀ c ∈ before, Text.isBlank c = true) →
              (∀ c ∈ after, Text.isBlank c = true) →
              x.raw.toList = (Written.slot before (fieldPath slot f.key) after).chars →
              p.resolution s x = .ok ⟨text, "fallback"⟩ := by
  obtain ⟨t, d, s, skipped, made, ht, hd, hs, hmade, rfl⟩ :=
    process_eq_ok_iff.1 (run_eq_ok_iff.1 h).1
  obtain ⟨made, rfl, hfiles⟩ := exists_eq_map_of_mapM_eq_ok hmade
  have hask : p.resolver.mayAsk s.data = false := by
    rw [data_of_setting hs]
    exact hoff d (readUserData_of_readUserData hd)
  refine ⟨t, s, ht, ⟨fun f => (made f).1, by simp [assemble], ?_⟩, ?_⟩
  · intro source hsource hutf8
    obtain ⟨rendered, hrender, hskin, -⟩ :=
      (madeFrom_of_processFile (hfiles source hsource)).1.utf8 hutf8
    obtain ⟨value, hfill, hvalue⟩ := Resolver.render_eq_ok_iff.1 hrender
    refine ⟨value, hvalue, ?_⟩
    rw [← hfill]
    exact hskin
  · intro slot decl hdecl hslot hkeys f hf hfield
    obtain ⟨values, v, hvalues, hv, hpresent⟩ :=
      SlotDecl.exists_get?_fill p.filler (p.normalized d).1 hdecl hkeys hf
    rw [← filled_of_setting hs] at hvalues
    refine ⟨values, v, FilledSlots.get?_toJson hvalues, hv, hpresent, ?_⟩
    intro text htext source hsource hutf8 x hx before after hbefore hafter hraw
    have hwritten : (Written.slot before (fieldPath slot f.key) after).Proper :=
      ⟨hbefore, slotPath_fieldPath hslot hfield, hafter⟩
    obtain ⟨hkind, hkey⟩ := noted_of_raw (mem_inText_iff.1 hx) hwritten hraw
    exact resolution_of_fieldPath hask hslot.1 hfield hvalues hv hpresent htext hkind hkey

/-- A template with one slot and a page that shows its title. -/
def heroTemplate : Template where
  key := "bakery"
  initialVersion :=
    { sourceFiles := [{ path := "index.html", content := "\x7b\x7b hero.title \x7d\x7d" }]
      slots := [("hero", { fields := [{ key := "title", default := "Fresh bread" }] })] }

/-- The form of the title on the page. -/
def heroForm : Written := .slot [' '] (fieldPath "hero" "title") [' ']

/-- A title that the caller sets to null gives way to the default, in the manifest and on the
page. -/
theorem slot_values_reach_page_null_title :
    ∃ project s x, run {} (.record heroTemplate)
        (.record { slots := [("hero", .obj [("title", .null)])] }) "now" = .ok project
      ∧ project.manifest.slots = [("hero", .obj [("title", .str "Fresh bread")])]
      ∧ x ∈ inText "\x7b\x7b hero.title \x7d\x7d" "index.html"
      ∧ x.raw = "\x7b\x7b hero.title \x7d\x7d"
      ∧ resolution {} s x = .ok ⟨"Fresh bread", "fallback"⟩ := by
  obtain ⟨project, hproject⟩ : ∃ project, run {} (.record heroTemplate)
      (.record { slots := [("hero", .obj [("title", .null)])] }) "now" = .ok project :=
    exists_eq_ok_of_isOk (by decide +kernel)
  have hslots : project.manifest.slots = [("hero", .obj [("title", .str "Fresh bread")])] := by
    obtain ⟨t, d, s, skipped, made, ht, hd, hs, -, rfl⟩ :=
      process_eq_ok_iff.1 (run_eq_ok_iff.1 hproject).1
    obtain rfl : heroTemplate = t := Except.ok.inj ht
    obtain rfl := Except.ok.inj hd
    change s.filled.toJson = _
    rw [filled_of_setting hs]
    rfl
  have hoff : ∀ d, readUserData "" (.record { slots := [("hero", .obj [("title", .null)])] })
      = .ok d → Resolver.mayAsk (resolver {}) d = false := fun d _ => rfl
  obtain ⟨t, s, ht, -, hvalue⟩ := slot_values_reach_page hproject hoff
  obtain rfl : heroTemplate = t := Except.ok.inj ht
  have hhero : IsSlotName "hero" := ⟨⟨by decide, List.all_eq_true.1 (by decide)⟩, by decide⟩
  have htitle : IsPathName "title" := ⟨by decide, List.all_eq_true.1 (by decide)⟩
  have hblank : ∀ c ∈ [' '], Text.isBlank c = true := List.all_eq_true.1 (by decide)
  obtain ⟨values, v, hvalues, hv, -, hpage⟩ := hvalue "hero" _ rfl hhero (by decide) _
    List.mem_cons_self htitle
  rw [hslots] at hvalues
  obtain rfl : [("title", .str "Fresh bread")] = values :=
    Json.obj.inj (Option.some.inj hvalues)
  obtain rfl : .str "Fresh bread" = v := Option.some.inj hv
  have hwritten : heroForm.Proper := ⟨hblank, slotPath_fieldPath hhero htitle, hblank⟩
  have hpieces : pieces "\x7b\x7b hero.title \x7d\x7d".toList
      = [.form heroForm.form heroForm.chars] := by
    have hform := pieces_chars_append hwritten []
    rwa [pieces_nil] at hform
  let x : Placeholder := { kind := .slot, key := some "hero.title", raw := .ofList heroForm.chars
                           context := ({} : Markup.State).context "index.html" }
  have hx : x ∈ inText "\x7b\x7b hero.title \x7d\x7d" "index.html" := by
    rw [mem_inText_iff, segments, hpieces]
    exact List.mem_cons_self
  exact ⟨project, s, x, hproject, hslots, hx, rfl,
    hpage "Fresh bread" rfl _ List.mem_cons_self rfl x hx [' '] [' '] hblank hblank
      String.toList_ofList⟩

end Processor

end SiteTemplate
