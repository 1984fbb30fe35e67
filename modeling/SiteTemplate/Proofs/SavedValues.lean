import SiteTemplate.Json.Writer
import SiteTemplate.Project.Processor
import SiteTemplate.Proofs.JsonText

/-!
# Saved values are loaded back

A list or an object that is saved is what its file is read as, and what its compact text in a source
file is read as. The exception are whole numbers with too many digits, for which no text is written
and whose digits are not read.
-/

namespace SiteTemplate

open Text Json

/-- Lists and objects are loaded back as they were saved, a list as the member of an object, and
they are what their compact text is read as. -/
theorem load_saved {v : Json} (hregular : v.isRegular = true) (hfits : v.fits = true) :
    ∃ text, v.render? .indented = some text
      ∧ (∀ ms, v = .obj ms → objectOfFile (some text) = .ok ms ∧ parse v.paste = .ok v)
      ∧ ∀ items, v = .arr items →
        objectOfFile (some text) = .ok [("_root", v)] ∧ parse v.paste = .ok v := by
  have hkept : v.IsKept := ⟨hregular, hfits⟩
  have hindented := parse_render Layout.isRead_indented hkept
  have hcompact := parse_render Layout.isRead_compact hkept
  refine ⟨v.render .indented, if_pos hfits, ?_, ?_⟩
  · rintro ms rfl
    exact ⟨by rw [objectOfFile, hindented], hcompact⟩
  · rintro items rfl
    exact ⟨by rw [objectOfFile, hindented], hcompact⟩

/-- A page with a text to be escaped, a number and empty parts. -/
def pageValue : Json :=
  .obj [("title", "say \"hi\"\n"), ("count", .int (-20)),
    ("parts", .arr [.null, .bool true, .obj [], .arr []])]

theorem load_saved_page : ∃ text, pageValue.render? .indented = some text
    ∧ objectOfFile (some text) = .ok [("title", .str "say \"hi\"\n"), ("count", .int (-20)),
      ("parts", .arr [.null, .bool true, .obj [], .arr []])]
    ∧ parse pageValue.paste = .ok pageValue := by
  obtain ⟨text, htext, hobject, -⟩ := @load_saved pageValue (by decide) (by decide +kernel)
  exact ⟨text, htext, hobject _ rfl⟩

private theorem parse_render_overlong (key : String) {k : Int} (hk : ¬ k.natAbs < tenTo mostDigits)
    :
    parse ((obj [(key, .int k)]).render .indented)
      = .error (.overlong (Nat.toDigits 10 k.natAbs).length) := by
  have hread (n : Nat) : readValue (n + 1) (' ' :: (writeInt k ++ ['\n', '\x7d']))
      = .error (.overlong (Nat.toDigits 10 k.natAbs).length) := by
    have hends : EndsNumber ['\n', '\x7d'] := rfl
    have hnumber := readNumber_writeInt k hends
    rw [if_neg hk] at hnumber
    rw [← hnumber, ← readValue_of_readNumber (n := n) (by rw [hnumber]; simp)]
    have hskip : skipGap ([' '] ++ (writeInt k ++ ['\n', '\x7d']))
        = skipGap (writeInt k ++ ['\n', '\x7d']) :=
      skipGap_append (List.forall_mem_singleton.2 rfl) _
    exact readValue_congr hskip
  have htext : ((obj [(key, .int k)]).render .indented).toList
      = '\x7b' :: (Layout.indented.lineBreak 1 ++ '"' :: (key.toList.flatMap escapeChar
        ++ '"' :: ':' :: ' ' :: (writeInt k ++ ['\n', '\x7d']))) := by
    simp [render, write, writeMember, writeMembers, writeString, Layout.lineBreak, Layout.indented]
  generalize hlength : ((obj [(key, .int k)]).render .indented).toList.length = length
  obtain ⟨n, rfl⟩ : ∃ n, length = n + 2 := by
    rw [htext, List.length_cons, List.length_append, List.length_cons] at hlength
    exact ⟨length - 2, by omega⟩
  have hmembers : readMembers (n + 2) ('"' :: (key.toList.flatMap escapeChar
      ++ '"' :: ':' :: ' ' :: (writeInt k ++ ['\n', '\x7d'])))
      = .error (.overlong (Nat.toDigits 10 k.natAbs).length) := by
    rw [readMembers, skipGap_cons rfl]
    simp only [readString_escaped, orBroken, bind, Except.bind, skipGap_cons (c := ':') rfl]
    rw [hread n]
  have hvalue : readValue (n + 2 + 1) ((obj [(key, .int k)]).render .indented).toList
      = .error (.overlong (Nat.toDigits 10 k.natAbs).length) := by
    rw [htext, readValue, skipGap_cons rfl]
    simp only [Layout.skipGap_lineBreak Layout.indented 1 (c := '"') rfl]
    split
    · next heq => exact absurd (List.cons.inj heq).1 (by decide)
    · rw [hmembers]
      rfl
  simp only [parse, hlength, hvalue]

private theorem length_toDigits_tenTo (n : Nat) : (Nat.toDigits 10 (tenTo n)).length = n + 1 := by
  rw [tenTo_eq]
  have hle := (Nat.length_toDigits_le_iff (n := 10 ^ n) (k := n + 1) (b := 10) (by decide)
    (Nat.succ_pos n)).2 (Nat.pow_lt_pow_right (by decide) (Nat.lt_succ_self n))
  rcases Nat.eq_zero_or_pos n with rfl | hpos
  · rfl
  · have hgt := mt (Nat.length_toDigits_le_iff (n := 10 ^ n) (k := n) (b := 10) (by decide) hpos).1
      (Nat.lt_irrefl _)
    omega

/-- The least number with too many digits. -/
def overlongValue : Json := .obj [("n", .int (tenTo mostDigits))]

/-- A file is neither written for a number with too many digits nor loaded where it holds one. -/
theorem not_load_saved_overlong : overlongValue.isRegular = true
    ∧ overlongValue.render? .indented = none
    ∧ objectOfFile (some (overlongValue.render .indented))
      = .error (.unreadable (.overlong 4301)) := by
  have hmany : ¬ ((tenTo mostDigits : Nat) : Int).natAbs < tenTo mostDigits := by
    rw [Int.natAbs_natCast]
    exact Nat.lt_irrefl _
  have hfits : overlongValue.fits = false := by
    simp only [overlongValue, fits, all, allOfMembers, Bool.true_and, Bool.and_true,
      decide_eq_false hmany]
  refine ⟨rfl, ?_, ?_⟩
  · rw [render?, hfits]
    rfl
  · rw [objectOfFile, overlongValue, parse_render_overlong "n" hmany, Int.natAbs_natCast,
      length_toDigits_tenTo]
    rfl

end SiteTemplate
