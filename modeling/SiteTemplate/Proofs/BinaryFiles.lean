import SiteTemplate.Proofs.FileByFile

/-!
# Files in Base64

The strict decoder gives back the bytes of every padded encoding. A file that holds one passes as
it is and is measured by its bytes, and a run whose texts can all be made breaks off exactly if one
of its files in Base64 cannot be decoded, which the refusal then names.
-/

namespace SiteTemplate

namespace Base64

variable {n count pads : Nat} {group : Group} {rest : List Char}

private theorem valueOf?_digitOf (h : n < 64) : valueOf? (digitOf n) = some n := by
  have hall : ∀ n < 64, valueOf? (digitOf n) = some n := by decide
  exact hall n h

private theorem toNat_digitOf_lt (h : n < 64) : (digitOf n).toNat < 128 := by
  have hall : ∀ n < 64, (digitOf n).toNat < 128 := by decide
  exact hall n h

theorem digitOf_ne_padding (h : n < 64) : digitOf n ≠ '=' := by
  have hall : ∀ n < 64, digitOf n ≠ '=' := by decide
  exact hall n h

theorem decodeFrom_digit (h : n < 64) :
    decodeFrom count false pads group (digitOf n :: rest)
      = match group.take n with
        | (none, group) => decodeFrom count false 0 group rest
        | (some b, group) => (decodeFrom (count + 1) false 0 group rest).map (b :: ·) := by
  rw [decodeFrom, if_neg (digitOf_ne_padding h), valueOf?_digitOf h]
  dsimp only
  rw [if_neg Bool.false_ne_true]
  rcases group.take n with ⟨_ | b, group⟩ <;> rfl

theorem ofNat_eq_of_toNat {a : UInt8} (h : n = a.toNat) : UInt8.ofNat n = a := by
  rw [h, UInt8.ofNat_toNat]

/-! The three bytes of a group, each with what the digit that completes it leaves to the next. -/

theorem decodeFrom_first (a : UInt8) (hn : n < 16) :
    decodeFrom count false pads .empty
        (digitOf (a.toNat / 4) :: digitOf (a.toNat % 4 * 16 + n) :: rest)
      = (decodeFrom (count + 1) false 0 (.two n) rest).map (a :: ·) := by
  have ha := a.toNat_lt
  have hbyte : UInt8.ofNat (a.toNat / 4 * 4 + (a.toNat % 4 * 16 + n) / 16) = a :=
    ofNat_eq_of_toNat (by omega)
  have hleft : (a.toNat % 4 * 16 + n) % 16 = n := by omega
  rw [decodeFrom_digit (by omega)]
  dsimp only [Group.take]
  rw [decodeFrom_digit (by omega)]
  dsimp only [Group.take]
  rw [hbyte, hleft]

theorem decodeFrom_second (b : UInt8) (hn : n < 4) :
    decodeFrom count false pads (.two (b.toNat / 16)) (digitOf (b.toNat % 16 * 4 + n) :: rest)
      = (decodeFrom (count + 1) false 0 (.three n) rest).map (b :: ·) := by
  have hb := b.toNat_lt
  have hbyte : UInt8.ofNat (b.toNat / 16 * 16 + (b.toNat % 16 * 4 + n) / 4) = b :=
    ofNat_eq_of_toNat (by omega)
  have hleft : (b.toNat % 16 * 4 + n) % 4 = n := by omega
  rw [decodeFrom_digit (by omega)]
  dsimp only [Group.take]
  rw [hbyte, hleft]

private theorem decodeFrom_third (c : UInt8) :
    decodeFrom count false pads (.three (c.toNat / 64)) (digitOf (c.toNat % 64) :: rest)
      = (decodeFrom (count + 1) false 0 .empty rest).map (c :: ·) := by
  have hc := c.toNat_lt
  have hbyte : UInt8.ofNat (c.toNat / 64 * 64 + c.toNat % 64) = c := ofNat_eq_of_toNat (by omega)
  rw [decodeFrom_digit (by omega)]
  dsimp only [Group.take]
  rw [hbyte]

private theorem decodeFrom_encode (bytes : List UInt8) (count pads : Nat) :
    decodeFrom count false pads .empty (encode bytes) = .ok bytes := by
  induction bytes using encode.induct generalizing count pads with
  | case1 => rfl
  | case2 a =>
    rw [encode, ← Nat.add_zero (a.toNat % 4 * 16), decodeFrom_first a (by omega)]
    rfl
  | case3 a b =>
    have hb := b.toNat_lt
    rw [encode, decodeFrom_first a (by omega), ← Nat.add_zero (b.toNat % 16 * 4),
      decodeFrom_second b (by omega)]
    rfl
  | case4 a b c rest ih =>
    have hb := b.toNat_lt
    have hc := c.toNat_lt
    rw [encode, decodeFrom_first a (by omega), decodeFrom_second b (by omega), decodeFrom_third,
      ih]
    rfl

private theorem forall_mem_encode {P : Char → Prop} (hdigit : ∀ n < 64, P (digitOf n))
    (hpad : P '=')
    (bytes : List UInt8) : ∀ c ∈ encode bytes, P c := by
  induction bytes using encode.induct with
  | case1 => simp [encode]
  | case2 a =>
    have ha := a.toNat_lt
    have h₁ := hdigit (a.toNat / 4) (by omega)
    have h₂ := hdigit (a.toNat % 4 * 16) (by omega)
    simp [encode, h₁, h₂, hpad]
  | case3 a b =>
    have ha := a.toNat_lt
    have hb := b.toNat_lt
    have h₁ := hdigit (a.toNat / 4) (by omega)
    have h₂ := hdigit (a.toNat % 4 * 16 + b.toNat / 16) (by omega)
    have h₃ := hdigit (b.toNat % 16 * 4) (by omega)
    simp [encode, h₁, h₂, h₃, hpad]
  | case4 a b c rest ih =>
    have ha := a.toNat_lt
    have hb := b.toNat_lt
    have hc := c.toNat_lt
    have h₁ := hdigit (a.toNat / 4) (by omega)
    have h₂ := hdigit (a.toNat % 4 * 16 + b.toNat / 16) (by omega)
    have h₃ := hdigit (b.toNat % 16 * 4 + c.toNat / 64) (by omega)
    have h₄ := hdigit (c.toNat % 64) (by omega)
    simp only [encode, List.forall_mem_cons]
    exact ⟨h₁, h₂, h₃, h₄, ih⟩

private theorem head?_encode_ne (bytes : List UInt8) : (encode bytes).head? ≠ some '=' := by
  have hfirst (a : UInt8) : some (digitOf (a.toNat / 4)) ≠ some '=' := by
    have ha := a.toNat_lt
    exact fun h => digitOf_ne_padding (by omega) (Option.some.inj h)
  cases bytes using encode.induct with
  | case1 => simp [encode]
  | case2 a => exact hfirst a
  | case3 a b => exact hfirst a
  | case4 a b c rest => exact hfirst a

private theorem decode_encode (bytes : List UInt8) : decode (encode bytes) = .ok bytes := by
  have hascii : ∀ c ∈ encode bytes, c.toNat < 128 :=
    forall_mem_encode (fun _ hn => toNat_digitOf_lt hn) (by decide) bytes
  have hall : (encode bytes).all (·.toNat < 128) = true := by simpa using hascii
  rw [decode, hall, Bool.not_true, if_neg Bool.false_ne_true, if_neg (head?_encode_ne bytes),
    decodeFrom_encode]

end Base64

namespace Processor

variable {p : Processor} {s : Setting} {f : SourceFile} {template : Supplied Template}
  {data : Supplied UserData} {generatedAt : String} {t : Template} {d : UserData}
  {skipped : List String}

theorem processFile_base64 (h : f.encoding = .base64) :
    p.processFile s f = match Base64.decode f.content.toList with
      | .ok bytes => .ok (packed f f.content bytes.length, 0)
      | .error fault =>
        .error (.refused { key := s.key, file := some f.path, reason := .badBase64 fault }) := by
  cases hread : Base64.decode f.content.toList <;> simp [processFile, h, hread]

private theorem processFile_of_encode {bytes : List UInt8} (h : f.encoding = .base64)
    (hcontent : f.content.toList = Base64.encode bytes) :
    p.processFile s f = .ok (packed f f.content bytes.length, 0) := by
  rw [processFile_base64 h, hcontent, Base64.decode_encode]

/-- The strict decoder rejects a source in Base64. -/
def Rejects (f : SourceFile) (fault : Base64.Fault) : Prop :=
  f.encoding = .base64 ∧ Base64.decode f.content.toList = .error fault

theorem processFile_of_rejects {fault : Base64.Fault} (h : Rejects f fault) :
    p.processFile s f
      = .error (.refused { key := s.key, file := some f.path, reason := .badBase64 fault }) := by
  rw [processFile_base64 h.1, h.2]

theorem fails_processFile_iff (htext : f.encoding = .utf8 → ¬ Fails (p.processFile s f)) :
    Fails (p.processFile s f) ↔ ∃ fault, Rejects f fault := by
  constructor
  · intro hfails
    cases hencoding : f.encoding with
    | utf8 => exact absurd hfails (htext hencoding)
    | base64 =>
      rw [processFile_base64 hencoding] at hfails
      cases hdecode : Base64.decode f.content.toList with
      | ok bytes => simp [hdecode] at hfails
      | error fault => exact ⟨fault, hencoding, hdecode⟩
  · rintro ⟨fault, hfault⟩
    rw [processFile_of_rejects hfault]
    exact fails_error _

private theorem key_of_setting (h : p.setting t d = .ok (s, skipped)) : s.key = t.key := by
  obtain ⟨theme, -, rfl⟩ := setting_eq_ok_iff.1 h
  rfl

/-- A refusal names a source of a template that the strict decoder rejects with a fault. -/
structure NamesRejected (e : ProcessingError) (t : Template) (f : SourceFile)
    (fault : Base64.Fault) : Prop where
  key : e.key = t.key
  file : e.file = some f.path
  message : e.message = "Template " ++ (t.key ++ ":" ++ f.path) ++ ": "
    ++ ("invalid base64 content: " ++ fault.message)

private theorem namesRejected (hkey : t.key ≠ "") (f : SourceFile) (fault : Base64.Fault) :
    NamesRejected { key := t.key, file := some f.path, reason := .badBase64 fault } t f fault where
  key := rfl
  file := rfl
  message := by
    rw [ProcessingError.message_eq, ProcessingError.location_of_file hkey rfl,
      Refusal.text_badBase64]

section Run

variable (ht : acceptTemplate template = .ok t) (hd : readUserData t.key data = .ok d)
  (hs : p.setting t (p.normalized d).1 = .ok (s, skipped))

include ht hd hs

theorem process_eq_map_assemble : p.process template data generatedAt
    = (t.initialVersion.sourceFiles.mapM (p.processFile s)).map fun made =>
        p.assemble t s made ((p.normalized d).2 ++ skipped) generatedAt := by
  simp only [process, processAccepted, ht, hd, bind, Except.bind, hs]
  cases t.initialVersion.sourceFiles.mapM (p.processFile s) <;> rfl

private theorem files_of_encode {project : Project}
    (h : p.process template data generatedAt = .ok project) {before after : List SourceFile}
    {bytes : List UInt8} (hsources : t.initialVersion.sourceFiles = before ++ f :: after)
    (hencoding : f.encoding = .base64) (hcontent : f.content.toList = Base64.encode bytes) :
    project.files[before.length]? = some (packed f f.content bytes.length)
      ∧ project.info.placeholderCount = placeholdersIn (before ++ after) := by
  rw [process_eq_map_assemble ht hd hs] at h
  obtain ⟨made, hmade, rfl⟩ := map_eq_ok_iff.1 h
  obtain ⟨file, rfl, hfile⟩ := exists_eq_map_of_mapM_eq_ok hmade
  rw [hsources] at hfile
  have hf : file f = (packed f f.content bytes.length, 0) :=
    Except.ok.inj ((hfile f (by simp)).symm.trans (processFile_of_encode hencoding hcontent))
  have hcount : ∀ g ∈ before ++ f :: after, (file g).2 = placeholdersIn [g] :=
    fun g hg => (madeFrom_of_processFile (hfile g hg)).2
  have hnone : placeholdersIn [f] = 0 := by rw [← hcount f (by simp), hf]
  constructor
  · simp [assemble, hsources, hf]
  · change placeholderTotal _ = _
    rw [hsources, placeholderTotal_map hcount, ← List.singleton_append, placeholdersIn_append,
      placeholdersIn_append, hnone, Nat.zero_add, placeholdersIn_append]

private theorem exists_process_eq_ok
    (h : ∀ f ∈ t.initialVersion.sourceFiles, ¬ Fails (p.processFile s f)) :
    ∃ project, p.process template data generatedAt = .ok project := by
  rw [process_eq_map_assemble ht hd hs]
  cases hmade : t.initialVersion.sourceFiles.mapM (p.processFile s) with
  | ok made => exact ⟨_, rfl⟩
  | error e =>
    obtain ⟨f, hf, hfails⟩ := fails_mapM_iff.1 ⟨e, hmade⟩
    exact absurd hfails (h f hf)

/-- Where the texts can be made, a run with a rejected source is refused, and the refusal names
one. -/
theorem exists_process_eq_refused
    (htext : ∀ f ∈ t.initialVersion.sourceFiles, f.encoding = .utf8 → ¬ Fails (p.processFile s f))
    (h : ∃ f ∈ t.initialVersion.sourceFiles, ∃ fault, Rejects f fault) :
    ∃ e, p.process template data generatedAt = .error (.refused e)
      ∧ ∃ f ∈ t.initialVersion.sourceFiles, ∃ fault,
        Rejects f fault ∧ NamesRejected e t f fault := by
  obtain ⟨f, hf, hrejected⟩ := h
  obtain ⟨failure, hrun⟩ :=
    fails_mapM_iff.2 ⟨f, hf, (fails_processFile_iff (htext f hf)).2 hrejected⟩
  obtain ⟨g, hg, hfailure⟩ := exists_eq_error_of_mapM_eq_error hrun
  obtain ⟨fault, hfault⟩ := (fails_processFile_iff (htext g hg)).1 ⟨failure, hfailure⟩
  rw [processFile_of_rejects hfault, key_of_setting hs] at hfailure
  obtain rfl := Except.error.inj hfailure
  have hkey := (acceptTemplate_eq_ok_iff.1 ht).2.1
  refine ⟨_, ?_, g, hg, fault, hfault, namesRejected hkey g fault⟩
  rw [process_eq_map_assemble ht hd hs, hrun]
  rfl

/-- In a finished run a file that holds the padded encoding of bytes is output as it is, with their
number as its size, and adds nothing to the placeholders. A run whose texts can all be made is
finished if the strict decoder rejects no file; otherwise it is refused, and the refusal names the
template and a rejected file. -/
theorem process_base64_files :
    (∀ project before f after bytes, p.process template data generatedAt = .ok project →
      t.initialVersion.sourceFiles = before ++ f :: after →
      f.encoding = .base64 → f.content.toList = Base64.encode bytes →
      project.files[before.length]? = some
        { path := f.path, content := f.content, type := f.type.name, size := bytes.length
          checksum := Sha256.ofText f.content }
      ∧ project.info.placeholderCount = placeholdersIn (before ++ after))
    ∧ ((∀ f ∈ t.initialVersion.sourceFiles, f.encoding = .utf8 → ¬ Fails (p.processFile s f)) →
      ((∀ f ∈ t.initialVersion.sourceFiles, ∀ fault, ¬ Rejects f fault) →
        ∃ project, p.process template data generatedAt = .ok project)
      ∧ ((∃ f ∈ t.initialVersion.sourceFiles, ∃ fault, Rejects f fault) →
        ∃ e, p.process template data generatedAt = .error (.refused e)
          ∧ ∃ f ∈ t.initialVersion.sourceFiles, ∃ fault,
            Rejects f fault ∧ NamesRejected e t f fault)) := by
  refine ⟨?_, fun htext => ⟨?_, exists_process_eq_refused ht hd hs htext⟩⟩
  · intro project before f after bytes h hsources hencoding hcontent
    exact files_of_encode ht hd hs h hsources hencoding hcontent
  · intro hnone
    apply exists_process_eq_ok ht hd hs
    intro f hf hfails
    obtain ⟨fault, hfault⟩ := (fails_processFile_iff (htext f hf)).1 hfails
    exact hnone f hf fault hfault

end Run

/-- A page with a placeholder. -/
def page : SourceFile := { path := "index.html", content := "<h1><text/></h1>" }

/-- A picture in Base64. -/
def picture (path content : String) : SourceFile :=
  { path, type := .asset, encoding := .base64, content }

/-- A template with a page and pictures. -/
def gallery (pictures : List SourceFile) : Template where
  key := "shop"
  initialVersion := { sourceFiles := page :: pictures }

/-- What is common to the files of such a template if nothing is known of the caller. -/
def gallerySetting : Setting where
  key := "shop"
  data := (normalized {} {}).1
  theme := .modern
  filled := []

theorem setting_gallery (pictures : List SourceFile) :
    setting {} (gallery pictures) (normalized {} {}).1 = .ok (gallerySetting, []) := rfl

theorem readUserData_null (key : String) : readUserData key (.raw .null) = .ok {} := rfl

/-- A picture of two bytes is output as it is, and one that lacks its padding is named. -/
theorem process_base64_files_gallery :
    (∃ project, process {} (.record (gallery [picture "logo.png" "aGk="])) (.raw .null) "now"
        = .ok project
      ∧ project.files[1]? = some (packed (picture "logo.png" "aGk=") "aGk=" 2)
      ∧ project.info.placeholderCount = 1)
    ∧ ∃ e f fault, process {}
        (.record (gallery [picture "logo.png" "aGk=", picture "icon.png" "aGk"])) (.raw .null) "now"
        = .error (.refused e)
      ∧ Rejects f fault ∧ NamesRejected e (gallery []) f fault := by
  constructor
  · obtain ⟨project, hproject⟩ : ∃ project, process {}
        (.record (gallery [picture "logo.png" "aGk="])) (.raw .null) "now" = .ok project :=
      exists_eq_ok_of_isOk (by decide +kernel)
    have ht : acceptTemplate (.record (gallery [picture "logo.png" "aGk="])) = .ok _ := rfl
    obtain ⟨hfile, hcount⟩ := (process_base64_files ht (readUserData_null _)
      (setting_gallery _)).1 project [page] (picture "logo.png" "aGk=") [] [104, 105] hproject rfl
      rfl (by decide)
    exact ⟨project, hproject, hfile, hcount.trans (by decide +kernel)⟩
  · have hrejects : Rejects (picture "icon.png" "aGk") .missingPadding := ⟨rfl, by decide⟩
    have hpage : ¬ Fails (processFile {} gallerySetting page) := by
      obtain ⟨made, hmade⟩ : ∃ made, processFile {} gallerySetting page = .ok made :=
        exists_eq_ok_of_isOk (by decide +kernel)
      rw [hmade]
      exact not_fails_ok made
    have htext : ∀ f ∈ [page, picture "logo.png" "aGk=", picture "icon.png" "aGk"],
        f.encoding = .utf8 → ¬ Fails (processFile {} gallerySetting f) := by
      simp [hpage, picture]
    have ht : acceptTemplate
        (.record (gallery [picture "logo.png" "aGk=", picture "icon.png" "aGk"])) = .ok _ := rfl
    obtain ⟨e, hrun, f, -, fault, hfault, hnames⟩ :=
      ((process_base64_files ht (readUserData_null _) (setting_gallery _)).2 htext).2
        ⟨_, by simp [gallery], _, hrejects⟩
    exact ⟨e, f, fault, hrun, hfault, ⟨hnames.key, hnames.file, hnames.message⟩⟩

end Processor

end SiteTemplate
