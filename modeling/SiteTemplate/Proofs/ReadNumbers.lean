import SiteTemplate.Proofs.JsonText
import SiteTemplate.Proofs.Traversal

/-!
# Whole numbers that are read

A text with too many digits is not read as a whole number, neither where it is a JSON text nor
where it is a setting. So every value that is read can be written again.
-/

namespace SiteTemplate

open Text

namespace Numeral

private theorem natural_lt {ds : List Char} (h : ∀ c ∈ ds, isAsciiDigit c = true) :
    natural ds < 10 ^ ds.length := by
  induction ds with
  | nil => exact Nat.one_pos
  | cons d ds ih =>
    obtain ⟨hd, hds⟩ := List.forall_mem_cons.1 h
    have hdigit : natural [d] ≤ 9 := by
      have hvalue : natural [d] = d.toNat - 48 := Nat.zero_add _
      simp only [isAsciiDigit, Bool.and_eq_true, decide_eq_true_eq, Char.le_def] at hd
      have hle : d.toNat ≤ 57 := UInt32.le_iff_toNat_le.1 hd.2
      omega
    calc
      natural (d :: ds) = natural [d] * 10 ^ ds.length + natural ds := natural_append [d] ds
      _ < 9 * 10 ^ ds.length + 10 ^ ds.length :=
        Nat.add_lt_add_of_le_of_lt (Nat.mul_le_mul_right _ hdigit) (ih hds)
      _ = 10 ^ (d :: ds).length := by
        rw [List.length_cons, Nat.pow_succ]
        omega

theorem natAbs_signed_lt {ds : List Char} (h : ∀ c ∈ ds, isAsciiDigit c = true)
    (hlength : ds.length ≤ mostDigits) (negative : Bool) :
    (if negative then -(natural ds : Int) else natural ds).natAbs < tenTo mostDigits := by
  have hnat : natural ds < tenTo mostDigits := by
    rw [tenTo_eq]
    exact (natural_lt h).trans_le (Nat.pow_le_pow_right (by decide) hlength)
  cases negative <;> simpa using hnat

private theorem isAsciiDigit_of_joinGroups? {cs ds : List Char} (h : joinGroups? cs = some ds) :
    ∀ c ∈ ds, isAsciiDigit c = true := by
  simp only [joinGroups?] at h
  split at h
  · next hgroups =>
    cases h
    rw [List.forall_mem_flatten]
    intro g hg
    have hboth := List.all_eq_true.1 hgroups g hg
    rw [Bool.and_eq_true, List.all_eq_true] at hboth
    exact hboth.2
  · cases h

/-- A setting is not read as a number with too many digits. -/
theorem natAbs_lt_of_settingInt? {s : String} {n : Int} (h : settingInt? s = some n) :
    n.natAbs < tenTo mostDigits := by
  unfold settingInt? at h
  split at h
  · next negative ds hdigits =>
    obtain ⟨ds', hjoin, heq⟩ := Option.map_eq_some_iff.1 hdigits
    obtain ⟨-, rfl⟩ := Prod.mk.inj heq
    split at h
    · next hlength =>
      cases h
      exact natAbs_signed_lt (isAsciiDigit_of_joinGroups? hjoin) hlength negative
    · cases h
  · cases h

end Numeral

namespace Json

variable {cs ds rest : List Char} {v : Json}

private theorem isAsciiDigit_of_readWhole (h : readWhole cs = some (ds, rest)) :
    ∀ c ∈ ds, isAsciiDigit c = true := by
  unfold readWhole at h
  split at h
  · cases h
    exact List.forall_mem_singleton.2 rfl
  · next c cs _ =>
    split at h
    · next hc =>
      cases h
      rw [List.forall_mem_cons]
      exact ⟨hc, fun x hx => List.mem_takeWhile_imp hx⟩
    · cases h
  · cases h

private theorem fits_of_wholeNumber {negative : Bool} (hdigits : ∀ c ∈ ds, isAsciiDigit c = true)
    (h : wholeNumber negative ds = .ok v) : v.fits = true := by
  unfold wholeNumber at h
  split at h
  · next hlength =>
    cases h
    exact fits_int.2 (Numeral.natAbs_signed_lt hdigits hlength negative)
  · cases h

private theorem fits_of_readNumber (h : readNumber cs = .ok (v, rest)) : v.fits = true := by
  simp only [readNumber] at h
  split at h
  · cases h
  · next ds after hwhole =>
    split at h
    · obtain ⟨w, hw, heq⟩ := map_eq_ok_iff.1 h
      obtain ⟨rfl, -⟩ := Prod.mk.inj heq
      exact fits_of_wholeNumber (isAsciiDigit_of_readWhole hwhole) hw
    · cases h
      rfl

private theorem fits_of_readNamed (h : readNamed cs = some (v, rest)) : v.fits = true := by
  obtain ⟨⟨name, w⟩, hw, hread⟩ := List.exists_of_findSome?_eq_some h
  obtain ⟨_, -, heq⟩ := Option.map_eq_some_iff.1 hread
  obtain ⟨rfl, -⟩ := Prod.mk.inj heq
  simp only [namedValues, List.mem_cons, Prod.mk.injEq, List.not_mem_nil, or_false] at hw
  rcases hw with ⟨-, rfl⟩ | ⟨-, rfl⟩ | ⟨-, rfl⟩ | ⟨-, rfl⟩ | ⟨-, rfl⟩ | ⟨-, rfl⟩ <;> rfl

/-- Whatever is read where the descent may go so many levels deep can be written again. -/
def ReadsFitting (n : Nat) : Prop :=
  (∀ cs v rest, readValue n cs = .ok (v, rest) → v.fits = true)
    ∧ (∀ cs vs rest, readItems n cs = .ok (vs, rest) → ∀ v ∈ vs, v.fits = true)
    ∧ ∀ cs ms rest, readMembers n cs = .ok (ms, rest) → ∀ m ∈ ms, m.2.fits = true

section Step

variable {n : Nat} (ih : ReadsFitting n)

include ih

private theorem fits_of_readValue_succ (h : readValue (n + 1) cs = .ok (v, rest)) :
    v.fits = true := by
  obtain ⟨-, ihItems, ihMembers⟩ := ih
  rw [readValue] at h
  split at h
  · obtain ⟨_, -, heq⟩ := map_eq_ok_iff.1 h
    cases heq
    rfl
  · split at h
    · cases h
      rfl
    · obtain ⟨⟨vs, after⟩, hread, heq⟩ := map_eq_ok_iff.1 h
      cases heq
      exact fits_arr.2 (ihItems _ _ _ hread)
  · split at h
    · cases h
      rfl
    · obtain ⟨⟨ms, after⟩, hread, heq⟩ := map_eq_ok_iff.1 h
      cases heq
      exact fits_obj.2 fun m hm => ihMembers _ _ _ hread m (Entries.mem_of_mem_ofList hm)
  · split at h
    · next hnamed =>
      cases h
      exact fits_of_readNamed hnamed
    · exact fits_of_readNumber h

private theorem fits_of_readItems_succ {vs : List Json} (h : readItems (n + 1) cs = .ok (vs, rest))
    :
    ∀ v ∈ vs, v.fits = true := by
  obtain ⟨ihValue, ihItems, -⟩ := ih
  rw [readItems] at h
  obtain ⟨⟨v, after⟩, hread, h⟩ := bind_eq_ok_iff.1 h
  have hv := ihValue _ _ _ hread
  dsimp only at h
  split at h
  · cases h
    exact List.forall_mem_singleton.2 hv
  · obtain ⟨⟨more, last⟩, hmore, h⟩ := bind_eq_ok_iff.1 h
    cases h
    exact List.forall_mem_cons.2 ⟨hv, ihItems _ _ _ hmore⟩
  · cases h

private theorem fits_of_readMembers_succ {ms : List (String × Json)}
    (h : readMembers (n + 1) cs = .ok (ms, rest)) : ∀ m ∈ ms, m.2.fits = true := by
  obtain ⟨ihValue, -, ihMembers⟩ := ih
  rw [readMembers] at h
  split at h
  · obtain ⟨⟨key, afterKey⟩, -, h⟩ := bind_eq_ok_iff.1 h
    dsimp only at h
    split at h
    · obtain ⟨⟨v, after⟩, hread, h⟩ := bind_eq_ok_iff.1 h
      have hv := ihValue _ _ _ hread
      dsimp only at h
      split at h
      · cases h
        exact List.forall_mem_singleton.2 hv
      · obtain ⟨⟨more, last⟩, hmore, h⟩ := bind_eq_ok_iff.1 h
        cases h
        exact List.forall_mem_cons.2 ⟨hv, ihMembers _ _ _ hmore⟩
      · cases h
    · cases h
  · cases h

end Step

private theorem readsFitting (n : Nat) : ReadsFitting n := by
  -- Values, items and members call one another, each with a smaller bound on the depth.
  induction n with
  | zero => exact ⟨nofun, nofun, nofun⟩
  | succ n ih =>
    exact ⟨fun _ _ _ => fits_of_readValue_succ ih, fun _ _ _ => fits_of_readItems_succ ih,
      fun _ _ _ => fits_of_readMembers_succ ih⟩

/-- What is read from a text can be written again. -/
theorem fits_of_parse {s : String} (h : parse s = .ok v) : v.fits = true := by
  simp only [parse] at h
  split at h
  · next hread =>
    split at h
    · cases h
      exact (readsFitting _).1 _ _ _ hread
    · cases h
  · cases h

end Json

end SiteTemplate
