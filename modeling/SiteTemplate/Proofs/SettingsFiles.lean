import SiteTemplate.Proofs.ReadNumbers
import SiteTemplate.Proofs.WrittenRecords
import SiteTemplate.Settings

/-!
# Settings that are saved and loaded

A settings file holds null in place of a number that is not finite. The bounds of the settings keep
every number finite but the time allowed for a request, which may be infinite: then the file that is
saved is refused. All other settings are loaded as they were saved.
-/

namespace SiteTemplate

open Text Record

namespace Json

mutual

theorem write_saved_encoded (depth : Nat) : ∀ v : Json,
    write .saved depth v.encoded = write .saved depth v
  | .null | .bool _ | .int _ | .str _ => rfl
  | .float x => by
    rw [encoded]
    split
    · rfl
    · next hfinite => exact (if_neg hfinite).symm
  | .arr [] | .obj [] => rfl
  | .arr (v :: vs) => by
    rw [encoded, encodedItems, write, write, write_saved_encoded, writeItems_saved_encoded]
  | .obj ((key, v) :: ms) => by
    rw [encoded, encodedMembers, write, write, writeMember, writeMember, write_saved_encoded,
      writeMembers_saved_encoded]

theorem writeItems_saved_encoded (depth : Nat) : ∀ vs : List Json,
    writeItems .saved depth (encodedItems vs) = writeItems .saved depth vs
  | [] => rfl
  | v :: vs => by
    rw [encodedItems, writeItems, writeItems, write_saved_encoded, writeItems_saved_encoded]

theorem writeMembers_saved_encoded (depth : Nat) : ∀ ms : Members,
    writeMembers .saved depth (encodedMembers ms) = writeMembers .saved depth ms
  | [] => rfl
  | (key, v) :: ms => by
    rw [encodedMembers, writeMembers, writeMembers, writeMember, writeMember, write_saved_encoded,
      writeMembers_saved_encoded]

end

private theorem parse_render_saved {v : Json} (hv : v.encoded.IsKept) :
    parse (v.render .saved) = .ok v.encoded := by
  have htext : v.render .saved = v.encoded.render .saved :=
    congrArg String.ofList (write_saved_encoded 0 v).symm
  rw [htext, parse_render Layout.isRead_saved hv]

theorem isKept_encoded_float (x : Binary64) : (float x).encoded.IsKept := by
  rw [encoded]
  split
  · next hfinite => exact ⟨hfinite, rfl⟩
  · exact ⟨rfl, rfl⟩

end Json

theorem Record.isKept_write {s : Spelling} {fields : List (Key × Json)}
    (hapart : (fields.map Prod.fst).Pairwise Key.IsApart) (h : ∀ e ∈ fields, e.2.IsKept) :
    (write s fields).IsKept := by
  refine Json.isKept_obj.2 ⟨nodup_keys_written hapart, fun m hm => ?_⟩
  obtain ⟨e, he, rfl⟩ := List.mem_map.1 hm
  exact h e he

theorem Record.fits_of_find? {o : Members} {k : Key} {e : String × Json}
    (ho : (Json.obj o).fits = true) (h : find? o k = some e) : e.2.fits = true := by
  obtain ⟨key, hmem⟩ := exists_mem_of_find? h
  exact Json.fits_obj.1 ho (key, e.2) hmem

private theorem Binary64.isFinite_of_le {x low high : Binary64} (hlow : low.isFinite = true)
    (hhigh : high.isFinite = true) (hle : low.le x = true) (hge : x.le high = true) :
    x.isFinite = true := by
  by_contra hx
  have hlowNaN := isNaN_of_isFinite hlow
  have hhighNaN := isNaN_of_isFinite hhigh
  have hnan : x.isNaN = false := by
    simp only [le, Bool.and_eq_true, Bool.not_eq_true'] at hle
    exact hle.1.2
  -- An infinite number is above every finite one or below every finite one.
  have hpositive : x.isNegative = false := by simpa [le, lt, hlow, hlowNaN, hnan, hx] using hle
  have hnegative : x.isNegative = true := by simpa [le, lt, hhigh, hhighNaN, hnan, hx] using hge
  rw [hpositive] at hnegative
  cases hnegative

namespace Read

variable {v : Json} {bound least greatest : Int} {x : Binary64}

theorem floatAbove_eq_ok_iff : floatAbove bound v = Reading.ok x ↔
    float v = Reading.ok x ∧ (Binary64.ofInt bound).lt x = true := by
  rw [floatAbove, Reading.andThen_eq_ok_iff]
  constructor
  · rintro ⟨y, hy, h⟩
    split at h
    · next hlt =>
      obtain rfl := Reading.ok_eq_ok_iff.1 h
      exact ⟨hy, hlt⟩
    · cases h
  · rintro ⟨hx, hlt⟩
    exact ⟨x, hx, if_pos hlt⟩

theorem floatWithin_eq_ok_iff : floatWithin least greatest v = Reading.ok x ↔
    float v = Reading.ok x ∧ x.le (.ofInt greatest) = true
      ∧ (Binary64.ofInt least).le x = true := by
  rw [floatWithin, Reading.andThen_eq_ok_iff]
  constructor
  · rintro ⟨y, hy, h⟩
    split at h
    · cases h
    · next hge =>
      split at h
      · cases h
      · next hle =>
        obtain rfl := Reading.ok_eq_ok_iff.1 h
        exact ⟨hy, by simpa using hge, by simpa using hle⟩
  · rintro ⟨hx, hge, hle⟩
    exact ⟨x, hx, by simp [hge, hle]⟩

private theorem natAbs_lt_of_int {n : Int} (hv : v.fits = true) (h : int v = Reading.ok n) :
    n.natAbs < tenTo mostDigits := by
  cases v with
  | int k =>
    obtain rfl := Reading.ok_eq_ok_iff.1 h
    exact Json.fits_int.1 hv
  | bool b =>
    obtain rfl := Reading.ok_eq_ok_iff.1 h
    cases b <;> decide +kernel
  | float x =>
    rw [int, wholeFloat] at h
    split at h
    · cases h
    · split at h
      · cases h
      · split at h
        · next hn =>
          obtain rfl := Reading.ok_eq_ok_iff.1 h
          exact hn.trans (by decide +kernel)
        · cases h
  | str s =>
    rw [int, intText] at h
    split at h
    · split at h
      · next hn =>
        obtain rfl := Reading.ok_eq_ok_iff.1 h
        exact hn
      · cases h
    · cases h
  | _ => cases h

theorem positive_eq_ok_iff {n : Nat} :
    positive v = Reading.ok n ↔ int v = Reading.ok (n : Int) ∧ 0 < n := by
  rw [positive, intAtLeast, Reading.map_eq_ok_iff]
  simp only [Reading.andThen_eq_ok_iff]
  constructor
  · rintro ⟨m, ⟨k, hk, h⟩, rfl⟩
    split at h
    · cases h
    · next hleast =>
      obtain rfl := Reading.ok_eq_ok_iff.1 h
      have hcast : (k.toNat : Int) = k := by omega
      exact ⟨hcast.symm ▸ hk, by omega⟩
  · rintro ⟨hn, hpos⟩
    exact ⟨n, ⟨n, hn, if_neg (by omega)⟩, Int.toNat_natCast n⟩

end Read

namespace ModelSettings

variable {o : Members} {s : ModelSettings}

theorem read_obj_eq_ok_iff : read (.obj o) = Reading.ok s ↔
    optional o (.single "enabled") false Read.bool = Reading.ok s.enabled
    ∧ optional o (.single "api_key") "" Read.text = Reading.ok s.apiKey
    ∧ optional o (.single "base_url") "https://api.openai.com/v1" Read.text
      = Reading.ok s.baseUrl
    ∧ optional o (.single "model") "gpt-4o-mini" Read.text = Reading.ok s.model
    ∧ optional o (.single "timeout") (.ofRatio false 20 1) (Read.floatAbove 0)
      = Reading.ok s.timeout
    ∧ optional o (.single "temperature") (.ofRatio false 7 10) (Read.floatWithin 0 2)
      = Reading.ok s.temperature := by
  cases s
  simp only [read, Record.read, Reading.seq_eq_ok_iff, Reading.pure_eq_ok_iff, and_assoc,
    exists_and_left, exists_eq_left', ↓existsAndEq, and_true, mk.injEq]

/-- Numbers that the settings of the content model may hold. -/
structure IsWithinBounds (s : ModelSettings) : Prop where
  timeout : (Binary64.ofInt 0).lt s.timeout = true
  temperature_le : s.temperature.le (.ofInt 2) = true
  le_temperature : (Binary64.ofInt 0).le s.temperature = true

private theorem isWithinBounds_default : IsWithinBounds {} := by
  constructor <;> decide +kernel

private theorem isWithinBounds_of_read {v : Json} (h : read v = Reading.ok s) :
    s.IsWithinBounds := by
  obtain ⟨o, rfl, -⟩ := read_eq_ok_iff.1 h
  obtain ⟨-, -, -, -, htimeout, htemperature⟩ := read_obj_eq_ok_iff.1 h
  have hwithin : s.temperature.le (.ofInt 2) = true
      ∧ (Binary64.ofInt 0).le s.temperature = true :=
    of_optional (P := fun x => x.le (.ofInt 2) = true ∧ (Binary64.ofInt 0).le x = true) htemperature
      (by decide +kernel) fun _ _ hx => (Read.floatWithin_eq_ok_iff.1 hx).2
  refine ⟨?_, hwithin.1, hwithin.2⟩
  exact of_optional (P := fun x => (Binary64.ofInt 0).lt x = true) htimeout (by decide +kernel)
    fun _ _ hx => (Read.floatAbove_eq_ok_iff.1 hx).2

private theorem IsWithinBounds.isFinite_temperature (h : s.IsWithinBounds) :
    s.temperature.isFinite = true :=
  Binary64.isFinite_of_le (by decide +kernel) (by decide +kernel) h.le_temperature h.temperature_le

theorem encoded_toJson (s : ModelSettings) : s.toJson.encoded = write .plain
    [(.single "enabled", .bool s.enabled), (.single "api_key", .str s.apiKey),
      (.single "base_url", .str s.baseUrl), (.single "model", .str s.model),
      (.single "timeout", (Json.float s.timeout).encoded),
      (.single "temperature", (Json.float s.temperature).encoded)] := rfl

private theorem isKept_encoded_toJson (s : ModelSettings) : s.toJson.encoded.IsKept := by
  rw [encoded_toJson]
  refine isKept_write (by simp [Key.IsApart, Key.single]) ?_
  simp only [List.forall_mem_cons]
  exact ⟨⟨rfl, rfl⟩, ⟨rfl, rfl⟩, ⟨rfl, rfl⟩, ⟨rfl, rfl⟩, Json.isKept_encoded_float _,
    Json.isKept_encoded_float _, List.forall_mem_nil _⟩

private theorem read_encoded_toJson (h : s.IsWithinBounds) : read s.toJson.encoded
    = if s.timeout.isFinite then Reading.ok s
      else (Reading.fault .notFloat).within (.key "timeout") := by
  obtain ⟨o, ho, hfind⟩ := exists_of_eq_write s.encoded_toJson (by simp [Key.IsApart, Key.single])
  simp only [List.forall_mem_cons, Json.encoded, h.isFinite_temperature, if_true] at hfind
  obtain ⟨henabled, hkey, hurl, hmodel, htimeout, htemperature, -⟩ := hfind
  have hwithin : Read.floatWithin 0 2 (.float s.temperature) = Reading.ok s.temperature :=
    Read.floatWithin_eq_ok_iff.2 ⟨rfl, h.temperature_le, h.le_temperature⟩
  rw [ho]
  split
  · next hfinite =>
    rw [if_pos hfinite] at htimeout
    have habove : Read.floatAbove 0 (.float s.timeout) = Reading.ok s.timeout :=
      Read.floatAbove_eq_ok_iff.2 ⟨rfl, h.timeout⟩
    exact read_obj_eq_ok_iff.2 ⟨optional_of_find? henabled rfl, optional_of_find? hkey rfl,
      optional_of_find? hurl rfl, optional_of_find? hmodel rfl, optional_of_find? htimeout habove,
      optional_of_find? htemperature hwithin⟩
  · next hinfinite =>
    rw [if_neg hinfinite] at htimeout
    simp only [read, Record.read, Record.optional, henabled, hkey, hurl, hmodel, htimeout,
      htemperature, hwithin]
    rfl

end ModelSettings

namespace ProcessingSettings

variable {o : Members} {s : ProcessingSettings}

theorem read_obj_eq_ok_iff : read (.obj o) = Reading.ok s ↔
    optional o (.single "default_brand_name") "Online Store" Read.text
      = Reading.ok s.defaultBrandName
    ∧ optional o (.single "default_theme") "modern" Read.text = Reading.ok s.defaultTheme
    ∧ optional o (.single "max_parallel_resolutions") 8 Read.positive
      = Reading.ok s.maxParallelResolutions
    ∧ optional o (.single "max_parallel_files") 4 Read.positive = Reading.ok s.maxParallelFiles
    ∧ optional o (.single "verbose") true Read.bool = Reading.ok s.verbose := by
  cases s
  simp only [read, Record.read, Reading.seq_eq_ok_iff, Reading.pure_eq_ok_iff, and_assoc,
    exists_and_left, exists_eq_left', ↓existsAndEq, and_true, mk.injEq]

private theorem pos_of_read {v : Json} (h : read v = Reading.ok s) :
    0 < s.maxParallelResolutions ∧ 0 < s.maxParallelFiles := by
  obtain ⟨o, rfl, -⟩ := read_eq_ok_iff.1 h
  obtain ⟨-, -, hresolutions, hfiles, -⟩ := read_obj_eq_ok_iff.1 h
  exact ⟨of_optional hresolutions (by decide) fun _ _ hn => (Read.positive_eq_ok_iff.1 hn).2,
    of_optional hfiles (by decide) fun _ _ hn => (Read.positive_eq_ok_iff.1 hn).2⟩

theorem toJson_eq (s : ProcessingSettings) : s.toJson = write .plain
    [(.single "default_brand_name", .str s.defaultBrandName),
      (.single "default_theme", .str s.defaultTheme),
      (.single "max_parallel_resolutions", .int s.maxParallelResolutions),
      (.single "max_parallel_files", .int s.maxParallelFiles),
      (.single "verbose", .bool s.verbose)] := rfl

private theorem isKept_toJson (hresolutions : s.maxParallelResolutions < tenTo mostDigits)
    (hfiles : s.maxParallelFiles < tenTo mostDigits) : s.toJson.IsKept := by
  rw [toJson_eq]
  refine isKept_write (by simp [Key.IsApart, Key.single]) ?_
  simp only [List.forall_mem_cons]
  exact ⟨⟨rfl, rfl⟩, ⟨rfl, rfl⟩, Json.isKept_int.2 hresolutions, Json.isKept_int.2 hfiles,
    ⟨rfl, rfl⟩, List.forall_mem_nil _⟩

theorem read_toJson (hresolutions : 0 < s.maxParallelResolutions)
    (hfiles : 0 < s.maxParallelFiles) : read s.toJson = Reading.ok s := by
  obtain ⟨o, ho, hfind⟩ := exists_of_eq_write s.toJson_eq (by simp [Key.IsApart, Key.single])
  simp only [List.forall_mem_cons] at hfind
  obtain ⟨hfindBrand, hfindTheme, hfindResolutions, hfindFiles, hfindVerbose, -⟩ := hfind
  rw [ho, read_obj_eq_ok_iff]
  exact ⟨optional_of_find? hfindBrand rfl, optional_of_find? hfindTheme rfl,
    optional_of_find? hfindResolutions (Read.positive_eq_ok_iff.2 ⟨rfl, hresolutions⟩),
    optional_of_find? hfindFiles (Read.positive_eq_ok_iff.2 ⟨rfl, hfiles⟩),
    optional_of_find? hfindVerbose rfl⟩

private theorem lt_of_read {v : Json} (hv : v.fits = true) (h : read v = Reading.ok s) :
    s.maxParallelResolutions < tenTo mostDigits ∧ s.maxParallelFiles < tenTo mostDigits := by
  obtain ⟨o, rfl, -⟩ := read_eq_ok_iff.1 h
  obtain ⟨-, -, hresolutions, hfiles, -⟩ := read_obj_eq_ok_iff.1 h
  have hlt {k : Key} {n default : Nat} (hdefault : default < tenTo mostDigits)
      (hn : optional o k default Read.positive = Reading.ok n) : n < tenTo mostDigits := by
    rcases optional_eq_ok_iff.1 hn with ⟨-, rfl⟩ | ⟨e, he, hread⟩
    · exact hdefault
    · have hfits := fits_of_find? hv he
      simpa using Read.natAbs_lt_of_int hfits (Read.positive_eq_ok_iff.1 hread).1
  exact ⟨hlt (by decide +kernel) hresolutions, hlt (by decide +kernel) hfiles⟩

end ProcessingSettings

namespace Settings

variable {c : Settings} {v : Json}

theorem read_obj_eq_ok_iff {o : Members} : read (.obj o) = Reading.ok c ↔
    optional o (.single "ai") {} ModelSettings.read = Reading.ok c.ai
    ∧ optional o (.single "processing") {} ProcessingSettings.read = Reading.ok c.processing := by
  cases c
  simp only [read, Record.read, Reading.seq_eq_ok_iff, Reading.pure_eq_ok_iff, exists_and_left,
    exists_eq_left', ↓existsAndEq, and_true, mk.injEq]

theorem fits_toJson : c.toJson.fits = true ↔
    c.processing.maxParallelResolutions < tenTo mostDigits
      ∧ c.processing.maxParallelFiles < tenTo mostDigits := by
  simp [toJson, ModelSettings.toJson, ProcessingSettings.toJson, Json.fits, Json.all,
    Json.allOfMembers]

private theorem parse_save (hfits : c.toJson.fits = true) :
    Json.parse c.save = .ok c.toJson.encoded := by
  obtain ⟨hresolutions, hfiles⟩ := fits_toJson.1 hfits
  have hencoded : c.toJson.encoded = write .plain
      [(.single "ai", c.ai.toJson.encoded), (.single "processing", c.processing.toJson)] := rfl
  have hkept : c.toJson.encoded.IsKept := by
    rw [hencoded]
    refine isKept_write (by simp [Key.IsApart, Key.single]) ?_
    simp only [List.forall_mem_cons]
    exact ⟨c.ai.isKept_encoded_toJson, ProcessingSettings.isKept_toJson hresolutions hfiles,
      List.forall_mem_nil _⟩
  exact Json.parse_render_saved hkept

/-- Settings that were read are loaded as they were saved, but for an infinite time: the file holds
null in its place, which is refused. -/
theorem load_save_eq (hread : read v = Reading.ok c) (hfits : c.toJson.fits = true) : load c.save
    = if c.ai.timeout.isFinite then Reading.ok c
      else ((Reading.fault .notFloat).within (.key "timeout")).within (.key "ai") := by
  obtain ⟨o, rfl, -⟩ := read_eq_ok_iff.1 hread
  obtain ⟨hai, hprocessing⟩ := read_obj_eq_ok_iff.1 hread
  have hbounds : c.ai.IsWithinBounds :=
    of_optional hai ModelSettings.isWithinBounds_default fun _ _ =>
      ModelSettings.isWithinBounds_of_read
  have hpos : 0 < c.processing.maxParallelResolutions ∧ 0 < c.processing.maxParallelFiles :=
    of_optional (P := fun s => 0 < s.maxParallelResolutions ∧ 0 < s.maxParallelFiles) hprocessing
      (by decide) fun _ _ => ProcessingSettings.pos_of_read
  have hreadAi := ModelSettings.read_encoded_toJson hbounds
  have hreadProcessing := ProcessingSettings.read_toJson hpos.1 hpos.2
  have hencoded : read c.toJson.encoded
      = pure Settings.mk <*> (ModelSettings.read c.ai.toJson.encoded).within (.key "ai")
        <*> (ProcessingSettings.read c.processing.toJson).within (.key "processing") := rfl
  rw [load, parse_save hfits]
  dsimp only
  rw [hencoded, hreadAi, hreadProcessing]
  split <;> rfl

private theorem checked_eq_ok_iff {α : Type} {r : Reading α} {a : α} :
    checked r = .ok a ↔ r = Reading.ok a := by
  rcases r with faults | b
  · exact iff_of_false nofun nofun
  · rw [show checked (Except.ok b) = .ok b from rfl, Except.ok.injEq]
    exact Reading.ok_eq_ok_iff.symm

theorem fits_of_mem_asText {key : String} {value : Option String} :
    ∀ m ∈ asText key value, m.2.fits = true := by
  cases value with
  | none => exact List.forall_mem_nil _
  | some s => exact List.forall_mem_singleton.2 rfl

theorem fits_of_asInt {key : String} {value : Option String} {ms : Members}
    (h : asInt key value = .ok ms) : ∀ m ∈ ms, m.2.fits = true := by
  cases value with
  | none =>
    cases h
    exact List.forall_mem_nil _
  | some s =>
    rw [asInt] at h
    split at h
    · next hn =>
      cases h
      exact List.forall_mem_singleton.2 (Json.fits_int.2 (Numeral.natAbs_lt_of_settingInt? hn))
    · cases h

private theorem fits_of_asFloat {key : String} {value : Option String} {ms : Members}
    (h : asFloat key value = .ok ms) : ∀ m ∈ ms, m.2.fits = true := by
  cases value with
  | none =>
    cases h
    exact List.forall_mem_nil _
  | some s =>
    rw [asFloat] at h
    split at h
    · cases h
      exact List.forall_mem_singleton.2 rfl
    · cases h

theorem exists_read_of_ofEnvironment {env : Entries String String}
    (h : ofEnvironment env = .ok c) : ∃ v : Json, v.fits = true ∧ read v = Reading.ok c := by
  simp only [ofEnvironment, bind_eq_ok_iff, checked_eq_ok_iff] at h
  obtain ⟨timeout, htimeout, resolutions, hresolutions, files, hfiles, ai, hai, processing,
    hprocessing, h⟩ := h
  cases h
  refine ⟨.obj [("ai", _), ("processing", _)], ?_,
    read_obj_eq_ok_iff.2 ⟨optional_of_find? rfl hai, optional_of_find? rfl hprocessing⟩⟩
  simp only [Json.fits_obj, List.forall_mem_cons, List.forall_mem_append, and_assoc]
  exact ⟨rfl, List.forall_mem_nil _, fits_of_mem_asText, fits_of_mem_asText, fits_of_mem_asText,
    fits_of_asFloat htimeout, fits_of_mem_asText, fits_of_mem_asText, fits_of_asInt hresolutions,
    fits_of_asInt hfiles, List.forall_mem_nil _⟩

theorem fits_toJson_of_read (hv : v.fits = true) (h : read v = Reading.ok c) :
    c.toJson.fits = true := by
  obtain ⟨o, rfl, -⟩ := read_eq_ok_iff.1 h
  obtain ⟨-, hprocessing⟩ := read_obj_eq_ok_iff.1 h
  rw [fits_toJson]
  rcases optional_eq_ok_iff.1 hprocessing with ⟨-, hdefault⟩ | ⟨e, he, hread⟩
  · rw [← hdefault]
    decide +kernel
  · exact ProcessingSettings.lt_of_read (fits_of_find? hv he) hread

private theorem fits_toJson_of_load {text : String} (h : load text = Reading.ok c) :
    c.toJson.fits = true := by
  unfold load at h
  split at h
  · next hparse => exact fits_toJson_of_read (Json.fits_of_parse hparse) h
  · cases h

/-- Settings that were read from a value or given by the environment are loaded as they were saved
exactly if the time allowed for a request is finite and no number has too many digits to be written.
Only a value that cannot be written itself gives such a number. -/
theorem load_save_iff (h : (∃ v, read v = Reading.ok c) ∨ ∃ env, ofEnvironment env = .ok c) :
    (load c.save = Reading.ok c ↔ c.ai.timeout.isFinite = true ∧ c.toJson.fits = true)
      ∧ ((∃ v, Json.fits v = true ∧ read v = Reading.ok c) ∨ (∃ env, ofEnvironment env = .ok c) →
        c.toJson.fits = true) := by
  obtain ⟨v, hread⟩ : ∃ v, read v = Reading.ok c := by
    rcases h with hread | ⟨env, henv⟩
    · exact hread
    · obtain ⟨v, -, hread⟩ := exists_read_of_ofEnvironment henv
      exact ⟨v, hread⟩
  refine ⟨⟨fun hload => ?_, fun ⟨hfinite, hfits⟩ => ?_⟩, ?_⟩
  · have hfits := fits_toJson_of_load hload
    refine ⟨?_, hfits⟩
    by_contra hinfinite
    rw [load_save_eq hread hfits, if_neg hinfinite] at hload
    cases hload
  · rw [load_save_eq hread hfits, if_pos hfinite]
  · rintro (⟨w, hw, hwread⟩ | ⟨env, henv⟩)
    · exact fits_toJson_of_read hw hwread
    · obtain ⟨w, hw, hwread⟩ := exists_read_of_ofEnvironment henv
      exact fits_toJson_of_read hw hwread

/-- A value whose numbers are given by numerals and whose truth value is given by a word. -/
def numeralValue : Json :=
  .obj [("ai", .obj [("enabled", "yes"), ("api_key", "sk-1"), ("timeout", "3.5")]),
    ("processing", .obj [("max_parallel_files", "2")])]

/-- The settings that are read from it. -/
def numeralSettings : Settings where
  ai := { enabled := true, apiKey := "sk-1", timeout := .ofRatio false 7 2 }
  processing := { maxParallelFiles := 2 }

theorem load_save_iff_numeralValue : read numeralValue = Reading.ok numeralSettings
    ∧ load numeralSettings.save = Reading.ok numeralSettings := by
  have hread : read numeralValue = Reading.ok numeralSettings :=
    Reading.toOption_eq_some_iff.1 (by decide +kernel)
  have hiff := load_save_iff (.inl ⟨_, hread⟩)
  have hfits : numeralSettings.toJson.fits = true :=
    hiff.2 (.inl ⟨_, by decide +kernel, hread⟩)
  exact ⟨hread, hiff.1.2 ⟨by decide +kernel, hfits⟩⟩

/-- Settings whose requests may take any time. -/
def endlessSettings : Settings where
  ai := { timeout := .infinity false }

/-- An infinite time is accepted from a value and from the environment, and makes the file that is
saved one that is refused. -/
theorem load_save_endless :
    read (.obj [("ai", .obj [("timeout", "inf")])]) = Reading.ok endlessSettings
      ∧ ofEnvironment [("TEMPLATE_AI_TIMEOUT", "inf")] = .ok endlessSettings
      ∧ load endlessSettings.save
        = ((Reading.fault .notFloat).within (.key "timeout")).within (.key "ai") := by
  have hread : read (.obj [("ai", .obj [("timeout", "inf")])]) = Reading.ok endlessSettings :=
    Reading.toOption_eq_some_iff.1 (by decide +kernel)
  have henv : ofEnvironment [("TEMPLATE_AI_TIMEOUT", "inf")] = .ok endlessSettings :=
    toOption_eq_some_iff.1 (by decide +kernel)
  refine ⟨hread, henv, ?_⟩
  have hinfinite : ¬ endlessSettings.ai.timeout.isFinite = true := by decide +kernel
  rw [load_save_eq hread (fits_toJson_of_read (by decide +kernel) hread), if_neg hinfinite]

end Settings

end SiteTemplate
