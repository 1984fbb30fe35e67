import Mathlib.Data.List.Basic
import SiteTemplate.Proofs.Scanning
import SiteTemplate.Text.Characters

/-!
# Characters and words that differ in case only

The characters of ASCII before the capital letters differ from no other character in case only, so
that comparison without regard to case finds them nowhere else. A word of ASCII differs from another
in case only if both have the same lower-case form.
-/

namespace SiteTemplate.Text

private theorem LowerRun.le_of_target? {r : LowerRun} {n m : Nat} (h : r.target? n = some m) :
    r.target ≤ m := by
  simp only [LowerRun.target?, Option.ite_none_right_eq_some, Option.some.injEq] at h
  omega

private theorem toNat_foldChar {c : Char} (h : 128 ≤ c.toNat) :
    (foldChar c).toNat = 0 ∨ 65 ≤ (foldChar c).toNat := by
  have hofNat {m : Nat} (hm : 65 ≤ m) : (Char.ofNat m).toNat = 0 ∨ 65 ≤ (Char.ofNat m).toNat := by
    by_cases hvalid : m.isValidChar
    · rw [Char.ofNat, dif_pos hvalid]
      exact .inr hm
    · rw [Char.ofNat, dif_neg hvalid]
      exact .inl rfl
  have hruns : ∀ r ∈ lowerRuns, 65 ≤ r.target := by decide +kernel
  have htwins : ∀ p ∈ caseTwins, 65 ≤ p.2 := by decide +kernel
  have hlower : (lowerChar c).toNat = 0 ∨ 65 ≤ (lowerChar c).toNat := by
    simp only [lowerChar, Nat.not_lt.2 h, if_false]
    split
    · next m hm =>
      obtain ⟨r, hr, htarget⟩ := List.exists_of_findSome?_eq_some hm
      exact hofNat ((hruns r hr).trans (LowerRun.le_of_target? htarget))
    · exact .inr (by omega)
  unfold foldChar
  dsimp only
  split
  · next m hm =>
    obtain ⟨before, after, htable, -⟩ := List.lookup_eq_some_iff.1 hm
    have hmem : ((lowerChar c).toNat, m) ∈ caseTwins := by simp [htable]
    exact hofNat (htwins _ hmem)
  · exact hlower

/-- A property of all characters of ASCII can be checked on their code points. -/
theorem forall_ascii {p : Char → Prop} (h : ∀ n < 128, p (Char.ofNat n)) {c : Char}
    (hc : c.toNat < 128) : p c := by
  simpa only [Char.ofNat_toNat] using h c.toNat hc

/-- A sign that comes before the letters of ASCII. -/
def IsSign (c : Char) : Prop := 0 < c.toNat ∧ c.toNat < 65

instance (c : Char) : Decidable (IsSign c) :=
  inferInstanceAs (Decidable (0 < c.toNat ∧ c.toNat < 65))

theorem foldChar_eq_iff {x c : Char} (hx : IsSign x) : foldChar c = foldChar x ↔ c = x := by
  have hascii {c : Char} : c.toNat < 128 → 65 ≤ (foldChar c).toNat ∨ foldChar c = c :=
    forall_ascii (p := fun c => 65 ≤ (foldChar c).toNat ∨ foldChar c = c) (by decide +kernel)
  have hsigns : ∀ n < 65, foldChar (Char.ofNat n) = Char.ofNat n := by decide +kernel
  have hself : foldChar x = x := by
    simpa only [Char.ofNat_toNat] using hsigns x.toNat hx.2
  refine ⟨fun h => ?_, fun h => by rw [h]⟩
  rw [hself] at h
  obtain ⟨hpos, hlt⟩ := hx
  by_cases hc : c.toNat < 128
  · rcases hascii hc with hletter | hsame
    · rw [h] at hletter
      omega
    · rw [← h, hsame]
  · rcases toNat_foldChar (Nat.le_of_not_lt hc) with hzero | hletter
    · rw [h] at hzero
      omega
    · rw [h] at hletter
      omega

/-- Words that differ in case only have the same signs. -/
theorem sign_mem_iff {word lit : List Char} {x : Char} (hx : IsSign x)
    (h : word.map foldChar = lit.map foldChar) : x ∈ word ↔ x ∈ lit := by
  have hmem (cs : List Char) : foldChar x ∈ cs.map foldChar ↔ x ∈ cs := by
    simp only [List.mem_map, foldChar_eq_iff hx, exists_eq_right]
  rw [← hmem word, h, hmem lit]

/-- A literal that starts with a sign is read at this sign alone. -/
theorem afterIgnoringCase?_eq_none {lit : String} {x c : Char} {more : List Char} (hx : IsSign x)
    (hlit : lit.toList = x :: more) (hc : c ≠ x) (cs : List Char) :
    afterIgnoringCase? lit (c :: cs) = none := by
  rw [Option.eq_none_iff_forall_ne_some]
  intro left h
  obtain ⟨word, hcs, hword⟩ := afterIgnoringCase?_eq_some_iff.1 h
  rw [hlit] at hword
  cases word with
  | nil => cases hword
  | cons d word =>
    obtain ⟨rfl, -⟩ := List.cons.inj hcs
    exact hc ((foldChar_eq_iff hx).1 (List.cons.inj hword).1)

theorem afterIgnoringCase?_append (lit : String) (left : List Char) :
    afterIgnoringCase? lit (lit.toList ++ left) = some left :=
  afterIgnoringCase?_eq_some_iff.2 ⟨lit.toList, rfl, rfl⟩

/-- Without regard to case a word of ASCII is a lower-case word if its lower-case form is. -/
theorem map_foldChar_eq_iff {word lit : List Char} (hword : ∀ c ∈ word, c.toNat < 128)
    (hlit : ∀ c ∈ lit, c.toNat < 128) (hlower : lower lit = lit) :
    word.map foldChar = lit.map foldChar ↔ lower word = lit := by
  have hfold {cs : List Char} (h : ∀ c ∈ cs, c.toNat < 128) : cs.map foldChar = lower cs := by
    rw [lower_eq_map h]
    refine List.map_congr_left fun c hc => ?_
    exact forall_ascii (p := fun c => foldChar c = lowerChar c) (by decide +kernel) (h c hc)
  rw [hfold hword, hfold hlit, hlower]

end SiteTemplate.Text
