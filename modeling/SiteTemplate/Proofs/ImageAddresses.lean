import SiteTemplate.Json.Reader
import SiteTemplate.Prompt
import SiteTemplate.Proofs.Scanning
import SiteTemplate.Resolve.Fallback

/-!
# Addresses of images that show a text

A text in percent-encoding is decoded by its escapes and then as UTF-8, and every text comes back.
So the image that stands in for a missing one has an address that is accepted as a URL, needs no
quotes or escapes in a page, and says in its parameter which brand it shows.
-/

namespace SiteTemplate

open Text

namespace Percent

variable {cs : List Char} {c : Char}

/-- The bytes that an encoded text stands for; a percent sign that begins no escape stands for
itself. -/
def unescape : List Char → List UInt8
  | '%' :: high :: low :: rest =>
    match Json.hexValue? high, Json.hexValue? low with
    | some h, some l => UInt8.ofNat (16 * h + l) :: unescape rest
    | _, _ => String.utf8EncodeChar '%' ++ unescape (high :: low :: rest)
  | c :: rest => String.utf8EncodeChar c ++ unescape rest
  | [] => []

/-- The text that an encoded text stands for; none if its bytes are not UTF-8. -/
def decode? (cs : List Char) : Option String := String.fromUTF8? (unescape cs).toByteArray

private theorem unescape_cons (hc : c ≠ '%') (rest : List Char) :
    unescape (c :: rest) = String.utf8EncodeChar c ++ unescape rest := by
  rw [unescape]
  rintro _ _ _ rfl
  exact absurd rfl hc

theorem hexValue?_hexDigit : ∀ n < 16, Json.hexValue? (hexDigit n) = some n := by decide

private theorem unescape_escapeByte (b : UInt8) (rest : List Char) :
    unescape (escapeByte b ++ rest) = b :: unescape rest := by
  have hhigh : b.toNat / 16 < 16 := by have := b.toNat_lt; omega
  have hlow : b.toNat % 16 < 16 := Nat.mod_lt _ (by decide)
  have hbyte : UInt8.ofNat (16 * (b.toNat / 16) + b.toNat % 16) = b := by
    rw [Nat.div_add_mod, UInt8.ofNat_toNat]
  simp only [escapeByte, List.cons_append, List.nil_append, unescape, hexValue?_hexDigit _ hhigh,
    hexValue?_hexDigit _ hlow, hbyte]

private theorem unescape_flatMap_escapeByte (bs : List UInt8) (rest : List Char) :
    unescape (bs.flatMap escapeByte ++ rest) = bs ++ unescape rest := by
  induction bs with
  | nil => rfl
  | cons b bs ih =>
    rw [List.flatMap_cons, List.append_assoc, unescape_escapeByte, ih, List.cons_append]

private theorem unescape_encodeChar (c : Char) (rest : List Char) :
    unescape (encodeChar c ++ rest) = String.utf8EncodeChar c ++ unescape rest := by
  rw [encodeChar]
  split
  · next hc =>
    have hpercent : c ≠ '%' := by
      rintro rfl
      exact absurd hc (by decide)
    rw [List.singleton_append, unescape_cons hpercent]
  · exact unescape_flatMap_escapeByte _ rest

private theorem unescape_encode (cs : List Char) : unescape (encode cs) = utf8 cs := by
  induction cs with
  | nil => rfl
  | cons c cs ih =>
    rw [encode, List.flatMap_cons, unescape_encodeChar, ← encode, ih, utf8_cons]

private theorem fromUTF8?_utf8 (cs : List Char) :
    String.fromUTF8? (utf8 cs).toByteArray = some (.ofList cs) := by
  have hbytes : (utf8 cs).toByteArray = (String.ofList cs).toByteArray := by
    rw [String.toByteArray_ofList, List.utf8Encode, utf8]
  have hvalid : (utf8 cs).toByteArray.IsValidUTF8 := hbytes ▸ (String.ofList cs).isValidUTF8
  rw [String.fromUTF8?, dif_pos hvalid]
  exact congrArg some (String.toByteArray_inj.1 hbytes)

private theorem decode?_encode (cs : List Char) : decode? (encode cs) = some (.ofList cs) := by
  rw [decode?, unescape_encode, fromUTF8?_utf8]

/-- An unreserved character, or a mark that parts an address or begins an escape. -/
def isAddressChar (c : Char) : Bool := isUnreserved c || ":/?=%".toList.contains c

private theorem toNat_lt_of_isAddressChar (h : isAddressChar c = true) : c.toNat < 128 := by
  have hmarks : ∀ x ∈ ":/?=%".toList, x.toNat < 128 := by decide
  have hval : c.toNat = c.val.toNat := rfl
  simp only [isAddressChar, isUnreserved, Bool.or_eq_true, beq_iff_eq, List.contains_iff_mem] at h
  rcases h with ((((((hletter | hdigit) | rfl) | rfl) | rfl) | rfl) | hmark)
  · exact toNat_lt_of_isAsciiLetter hletter
  · have h9 : '9'.val.toNat = 57 := rfl
    simp only [isAsciiDigit, Bool.and_eq_true, decide_eq_true_eq, Char.le_def,
      UInt32.le_iff_toNat_le] at hdigit
    omega
  all_goals first | decide | exact hmarks c hmark

theorem forall_isAddressChar {p : Char → Bool}
    (h : ∀ n < 128, isAddressChar (Char.ofNat n) = true → p (Char.ofNat n) = true)
    (hc : isAddressChar c = true) : p c = true := by
  have hcode := h c.toNat (toNat_lt_of_isAddressChar hc)
  rw [Char.ofNat_toNat] at hcode
  exact hcode hc

theorem isUnreserved_hexDigit : ∀ n < 16, isUnreserved (hexDigit n) = true := by decide

private theorem of_mem_encode (h : c ∈ encode cs) : isUnreserved c = true ∨ c = '%' := by
  obtain ⟨x, -, hx⟩ := List.mem_flatMap.1 h
  rw [encodeChar] at hx
  split at hx
  · next hunreserved =>
    obtain rfl := List.mem_singleton.1 hx
    exact .inl hunreserved
  · obtain ⟨b, -, hb⟩ := List.mem_flatMap.1 hx
    have hhigh : b.toNat / 16 < 16 := by have := b.toNat_lt; omega
    have hlow : b.toNat % 16 < 16 := Nat.mod_lt _ (by decide)
    simp only [escapeByte, List.mem_cons, List.not_mem_nil, or_false] at hb
    rcases hb with rfl | rfl | rfl
    · exact .inr rfl
    · exact .inl (isUnreserved_hexDigit _ hhigh)
    · exact .inl (isUnreserved_hexDigit _ hlow)

theorem isAddressChar_of_mem_encode (h : c ∈ encode cs) : isAddressChar c = true := by
  rcases of_mem_encode h with hc | rfl
  · rw [isAddressChar, hc, Bool.true_or]
  · decide

/-- The query of an address: what stands between its first question mark and its number sign. -/
def query (address : List Char) : List Char :=
  ((address.takeWhile (· != '#')).dropWhile (· != '?')).drop 1

/-- The value of a parameter in the query of an address, as it is written there. -/
def parameter? (name : String) (address : List Char) : Option (List Char) :=
  ((query address).splitOnP (· == '&')).findSome? (after? (name ++ "="))

private theorem parameter?_append {base : List Char} {name : String} {value : List Char}
    (hbase : ∀ x ∈ base, x ≠ '?' ∧ x ≠ '#')
    (hvalue : ∀ x ∈ (name ++ "=").toList ++ value, x ≠ '&' ∧ x ≠ '#') :
    parameter? name (base ++ '?' :: ((name ++ "=").toList ++ value)) = some value := by
  have hshown : (base ++ '?' :: ((name ++ "=").toList ++ value)).takeWhile (· != '#')
      = base ++ '?' :: ((name ++ "=").toList ++ value) := by
    rw [List.takeWhile_eq_self_iff]
    intro x hx
    rw [bne_iff_ne]
    rcases List.mem_append.1 hx with hx | hx
    · exact (hbase x hx).2
    · rcases List.mem_cons.1 hx with rfl | hx
      · decide
      · exact (hvalue x hx).2
  have hquery : query (base ++ '?' :: ((name ++ "=").toList ++ value))
      = (name ++ "=").toList ++ value := by
    rw [query, hshown, List.dropWhile_append_of_pos fun x hx => bne_iff_ne.2 (hbase x hx).1]
    rfl
  have hsingle : ((name ++ "=").toList ++ value).splitOnP (· == '&')
      = [(name ++ "=").toList ++ value] :=
    List.splitOnP_eq_singleton fun x hx => by simpa using (hvalue x hx).1
  rw [parameter?, hquery, hsingle, List.findSome?_cons, after?_append]

end Percent

namespace Fallback

variable {text : String} {v : Option Json}

/-- The address up to the text that it shows. -/
def imageBase : String := "https://via.placeholder.com/800x600/3b82f6/ffffff?text="

private theorem toList_append_ofList (s : String) (cs : List Char) :
    (s ++ .ofList cs).toList = s.toList ++ cs := by
  rw [String.toList_append, String.toList_ofList]

theorem toList_imageUrl (text : String) :
    (imageUrl text).toList = imageBase.toList ++ Percent.encode text.toList :=
  toList_append_ofList imageBase _

theorem isAddressChar_of_mem_imageUrl {c : Char} (h : c ∈ (imageUrl text).toList) :
    Percent.isAddressChar c = true := by
  have hbase : ∀ x ∈ imageBase.toList, Percent.isAddressChar x = true := by decide +kernel
  rw [toList_imageUrl] at h
  rcases List.mem_append.1 h with h | h
  · exact hbase c h
  · exact Percent.isAddressChar_of_mem_encode h

private theorem parameter?_imageUrl (text : String) :
    Percent.parameter? "text" (imageUrl text).toList = some (Percent.encode text.toList) := by
  have hparts : ∀ x, Percent.isAddressChar x = true → x ≠ '&' ∧ x ≠ '#' := by
    intro x hx
    have hcode := Percent.forall_isAddressChar (p := fun x => x != '&' && x != '#') (by decide) hx
    simpa using hcode
  have hbase : imageBase.toList
      = "https://via.placeholder.com/800x600/3b82f6/ffffff".toList
        ++ '?' :: ("text" ++ "=").toList := by decide +kernel
  rw [toList_imageUrl, hbase, List.append_assoc, List.cons_append]
  refine Percent.parameter?_append (by decide +kernel) fun x hx => hparts x ?_
  rcases List.mem_append.1 hx with hx | hx
  · exact (by decide : ∀ y ∈ ("text" ++ "=").toList, Percent.isAddressChar y = true) x hx
  · exact Percent.isAddressChar_of_mem_encode hx

private theorem isUrl_imageUrl (text : String) : Answer.isUrl (imageUrl text).toList = true := by
  have hurl : ∀ x ∈ (imageUrl text).toList, Answer.isUrlChar x = true := fun x hx =>
    Percent.forall_isAddressChar (p := Answer.isUrlChar) (by decide)
      (isAddressChar_of_mem_imageUrl hx)
  obtain ⟨host, rest, hrest⟩ : ∃ host rest, (imageUrl text).toList
      = "https://".toList ++ host :: rest := ⟨'v', _, toList_imageUrl text⟩
  have hall : ∀ x ∈ host :: rest, Answer.isUrlChar x = true := fun x hx =>
    hurl x (hrest ▸ List.mem_append_right _ hx)
  have hplain : after? "http://" ("https://".toList ++ host :: rest) = none := rfl
  simp only [hrest, Answer.isUrl, hplain, Option.none_or, after?_append,
    List.takeWhile_eq_self_iff.2 hall, List.dropWhile_eq_nil_iff.2 hall]
  rfl

end Fallback

/-- The caller supplies no image: a text in the place of one is blank. -/
def UserData.NamesNoImage (d : UserData) : Prop :=
  (∀ s, Entries.get? d.images "url" = some (.str s) → ∀ c ∈ s.toList, isBlank c = true)
    ∧ ∀ s, Entries.get? d.aiContent "imageUrl" = some (.str s) →
      ∀ c ∈ s.toList, isBlank c = true

namespace Fallback

theorem url?_eq_none {v : Option Json}
    (h : ∀ s, v = some (.str s) → ∀ c ∈ s.toList, isBlank c = true) : url? v = none := by
  rcases v with _ | v
  · rfl
  · cases v with
    | str s =>
      have hblank : trimmed s = "" := by
        rw [trimmed, trim, trimBy, List.dropWhile_eq_nil_iff.2 (h s rfl)]
        rfl
      simp [url?, Json.text?, hblank]
    | _ => rfl

private theorem image_of_namesNoImage (defaultBrand : String) {q : Request}
    (h : q.userData.NamesNoImage) :
    image defaultBrand q = imageUrl (brand defaultBrand q.userData) := by
  rw [image, url?_eq_none h.1, url?_eq_none h.2]
  rfl

private theorem brand_of_brandName {d : UserData} {b : String} (hbrand : d.brandName = some b)
    (hb : b ≠ "") (defaultBrand : String) : brand defaultBrand d = b := by
  rw [brand, hbrand, Business.textOr, if_neg hb]

/-- Where no image is supplied, the value is an address that is accepted as that of an image, is
free of markup, braces, quotes and blanks, and has the brand as its text. -/
theorem image_shows_brand (defaultBrand : String) (q : Request)
    (hkind : q.placeholder.kind = .img) (hnone : q.userData.NamesNoImage) :
    ∃ address shown, value defaultBrand q = .ok address
      ∧ Answer.accepts .img address = true
      ∧ (∀ c ∈ address.toList,
        c ∉ ['<', '>', '\x7b', '\x7d', '"', '\'', '\x60'] ∧ isBlank c = false)
      ∧ Percent.parameter? "text" address.toList = some shown
      ∧ Percent.decode? shown = some (brand defaultBrand q.userData)
      ∧ ∀ b, q.userData.brandName = some b → b ≠ "" → Percent.decode? shown = some b := by
  let b := brand defaultBrand q.userData
  have hvalue : value defaultBrand q = .ok (imageUrl b) := by
    rw [value, hkind, image_of_namesNoImage defaultBrand hnone]
  have hdecode : Percent.decode? (Percent.encode b.toList) = some b := by
    rw [Percent.decode?_encode, String.ofList_toList]
  refine ⟨imageUrl b, Percent.encode b.toList, hvalue, isUrl_imageUrl b, fun c hc => ?_,
    parameter?_imageUrl b, hdecode, fun b' hbrand hb' => ?_⟩
  · have hclear := Percent.forall_isAddressChar
      (p := fun c => !(['<', '>', '\x7b', '\x7d', '"', '\'', '\x60'].contains c) && !isBlank c)
      (by decide) (isAddressChar_of_mem_imageUrl hc)
    simpa using hclear
  · rw [hdecode, ← brand_of_brandName hbrand hb' defaultBrand]

/-- A request for an image of a shop that names a brand and a blank address. -/
def teaRequest : Request where
  placeholder :=
    { kind := .img, key := none, position := 0, line := 1, raw := "<img/>", context := {} }
  userData := { brandName := some "ชา <&> 50%", images := [("url", " ")] }
  theme := Theme.modern

theorem image_shows_brand_tea : ∃ address shown,
    value "Online Store" teaRequest = .ok address ∧ Answer.accepts .img address = true
      ∧ Percent.parameter? "text" address.toList = some shown
      ∧ Percent.decode? shown = some "ชา <&> 50%" := by
  have hnone : teaRequest.userData.NamesNoImage := by
    refine ⟨fun s hs => ?_, fun s hs => ?_⟩
    · obtain rfl := Json.str.inj (Option.some.inj hs)
      decide
    · cases hs
  obtain ⟨address, shown, hvalue, haccepts, -, htext, -, hdecode⟩ :=
    image_shows_brand "Online Store" teaRequest rfl hnone
  exact ⟨address, shown, hvalue, haccepts, htext, hdecode _ rfl (by decide)⟩

end Fallback

end SiteTemplate
