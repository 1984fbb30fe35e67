import SiteTemplate.Proofs.RoundingError

/-!
# The shortest decimal rounds back

Around every finite number other than zero lies an interval of rational numbers that round to it:
half of the last bit to either side, but only a quarter below a power of two. A power of ten that is
not greater than half of the last bit has a multiple in the interval, so the search for the shortest
decimal ends with a decimal in the interval.
-/

namespace SiteTemplate.Binary64

variable {x : Binary64} {q : ℚ} {k : Int} {a b c d m : Nat}

theorem lt_roundRat_iff (hq : 0 ≤ q) (n : Nat) :
    (n : Int) < roundRat q ↔ (n : ℚ) + 1 / 2 < q ∨ (n : ℚ) + 1 / 2 = q ∧ n % 2 = 1 := by
  obtain ⟨a, b, hb, rfl⟩ := exists_eq_div hq
  have hb' : (0 : ℚ) < b := by exact_mod_cast hb
  have hless : (n : ℚ) + 1 / 2 < a / b ↔ (2 * n + 1) * b < 2 * a := by
    rw [lt_div_iff₀ hb', ← @Nat.cast_lt ℚ]
    push_cast
    constructor <;> intro h <;> linarith
  have hequal : (n : ℚ) + 1 / 2 = a / b ↔ (2 * n + 1) * b = 2 * a := by
    rw [eq_div_iff hb'.ne', ← @Nat.cast_inj ℚ]
    push_cast
    constructor <;> intro h <;> linarith
  rw [← roundDiv_eq_roundRat hb, Nat.cast_lt, lt_roundDiv_iff hb, hless, hequal]

/-- A number that lies within half a unit of a whole number is rounded to it; at the ends of the
interval the whole number must be even. -/
theorem roundRat_eq_of_near (hlow : (m : ℚ) - 1 / 2 ≤ q) (hhigh : q ≤ m + 1 / 2) (hm : 0 < m)
    (hends : m % 2 = 0 ∨ (m : ℚ) - 1 / 2 < q ∧ q < m + 1 / 2) : roundRat q = m := by
  obtain ⟨n, rfl⟩ : ∃ n, m = n + 1 := ⟨m - 1, by omega⟩
  push_cast at hlow hhigh hends ⊢
  have hq : 0 ≤ q := by linarith [(Nat.cast_nonneg n : (0 : ℚ) ≤ n)]
  have habove : (n : Int) < roundRat q := by
    rw [lt_roundRat_iff hq]
    rcases hends with heven | ⟨hlt, -⟩
    · rcases hlow.lt_or_eq with hlt | heq
      · exact .inl (by linarith)
      · exact .inr ⟨by linarith, by omega⟩
    · exact .inl (by linarith)
  have hbelow : ¬ ((n + 1 : Nat) : Int) < roundRat q := by
    rw [lt_roundRat_iff hq]
    push_cast
    rintro (hlt | ⟨heq, hodd⟩)
    · linarith
    · rcases hends with heven | ⟨-, hlt⟩
      · omega
      · linarith
  push_cast at hbelow
  omega

theorem fraction_lt (x : Binary64) : x.fraction < 2 ^ 52 := Nat.mod_lt _ (twoTo_pos 52)

theorem significand_lt (x : Binary64) : x.significand < 2 ^ 53 := by
  have hfraction := x.fraction_lt
  rw [significand, twoTo_eq]
  split <;> omega

theorem neg_le_exponent (x : Binary64) : -1074 ≤ x.exponent := by
  unfold exponent
  omega

theorem exponent_le (h : x.isFinite = true) : x.exponent ≤ 971 := by
  simp only [isFinite, decide_eq_true_eq] at h
  unfold exponent
  omega

private theorem le_significand (h : -1074 < x.exponent) : 2 ^ 52 ≤ x.significand := by
  unfold exponent at h
  rw [significand, twoTo_eq, if_neg (by omega)]
  omega

private theorem lt_exponentField_iff : 1 < x.exponentField ↔ -1074 < x.exponent := by
  unfold exponent
  omega

theorem bits_eq (x : Binary64) :
    ((x.exponentField * 2 ^ 52 + x.fraction : Nat) : Int)
      = (x.exponent + 1074) * 2 ^ 52 + x.significand := by
  rw [exponent, significand, twoTo_eq]
  split <;> push_cast <;> omega

theorem ofFields_bits (x : Binary64) :
    ofFields x.isNegative (x.exponentField * 2 ^ 52 + x.fraction) = x := by
  have hbits : x.bits.toNat < 2 ^ 64 := x.bits.toNat_lt
  have hsum : x.exponentField * 2 ^ 52 + x.fraction + (if x.isNegative then twoTo 63 else 0)
      = x.bits.toNat := by
    cases hsign : x.isNegative with
    | true =>
      have hhigh : 2 ^ 63 ≤ x.bits.toNat := of_decide_eq_true hsign
      rw [if_pos rfl, exponentField, fraction, twoTo_eq, twoTo_eq, twoTo_eq]
      omega
    | false =>
      have hlow : ¬ 2 ^ 63 ≤ x.bits.toNat := of_decide_eq_false hsign
      rw [if_neg Bool.false_ne_true, exponentField, fraction, twoTo_eq, twoTo_eq]
      omega
  rw [ofFields, hsum, UInt64.ofNat_toNat]

theorem two_zpow_add (e : Int) (n : Nat) : (2 : ℚ) ^ (e + n) = 2 ^ n * 2 ^ e := by
  rw [zpow_add₀ two_ne_zero, zpow_natCast, mul_comm]

theorem le_gridExponent {k : Int} (hq : 0 < q) (hk : (2 : ℚ) ^ (k + 52) ≤ q) :
    k ≤ gridExponent q := by
  have hlog := (Int.zpow_le_iff_le_log (b := 2) (by norm_num) hq).1 (by exact_mod_cast hk)
  unfold gridExponent
  omega

/-- How far below a number its interval begins. -/
def gapBelow (x : Binary64) : ℚ :=
  if x.significand = 2 ^ 52 ∧ 1 < x.exponentField then 2 ^ x.exponent / 4 else 2 ^ x.exponent / 2

/-- Whether a positive rational number lies in the interval of the numbers that round to a finite
number other than zero, its sign apart. -/
def RoundsTo (x : Binary64) (q : ℚ) : Prop :=
  if x.significand % 2 = 0 then
    x.significand * 2 ^ x.exponent - x.gapBelow ≤ q
      ∧ q ≤ x.significand * 2 ^ x.exponent + 2 ^ x.exponent / 2
  else
    x.significand * 2 ^ x.exponent - x.gapBelow < q
      ∧ q < x.significand * 2 ^ x.exponent + 2 ^ x.exponent / 2

theorem gapBelow_le (x : Binary64) : x.gapBelow ≤ 2 ^ x.exponent / 2 := by
  have hpos : (0 : ℚ) < 2 ^ x.exponent := by positivity
  unfold gapBelow
  split <;> linarith

theorem RoundsTo.bounds (h : x.RoundsTo q) :
    x.significand * 2 ^ x.exponent - x.gapBelow ≤ q
      ∧ q ≤ x.significand * 2 ^ x.exponent + 2 ^ x.exponent / 2 := by
  unfold RoundsTo at h
  split at h
  · exact h
  · exact ⟨h.1.le, h.2.le⟩

/-- In units of the last bit, the interval lies within half a unit of the significand. -/
theorem RoundsTo.near (h : x.RoundsTo q) :
    (x.significand : ℚ) - 1 / 2 ≤ q / 2 ^ x.exponent ∧ q / 2 ^ x.exponent ≤ x.significand + 1 / 2
      ∧ (x.significand % 2 = 0 ∨ (x.significand : ℚ) - 1 / 2 < q / 2 ^ x.exponent
        ∧ q / 2 ^ x.exponent < x.significand + 1 / 2) := by
  have hpos : (0 : ℚ) < 2 ^ x.exponent := by positivity
  have hgap := x.gapBelow_le
  obtain ⟨hlow, hhigh⟩ := h.bounds
  rw [le_div_iff₀ hpos, div_le_iff₀ hpos, lt_div_iff₀ hpos, div_lt_iff₀ hpos]
  refine ⟨by linarith, by linarith, ?_⟩
  unfold RoundsTo at h
  split at h
  · next heven => exact .inl heven
  · exact .inr ⟨by linarith, by linarith⟩

section Finite

variable (hsig : 0 < x.significand) (h : x.RoundsTo q)

include hsig h

theorem RoundsTo.le : (2 : ℚ) ^ x.exponent / 2 ≤ q := by
  have hpos : (0 : ℚ) < 2 ^ x.exponent := by positivity
  have hgap := x.gapBelow_le
  have hone : (1 : ℚ) ≤ x.significand := by exact_mod_cast hsig
  nlinarith [h.bounds.1]

theorem RoundsTo.pos : 0 < q := lt_of_lt_of_le (by positivity) (h.le hsig)

omit hsig in
theorem RoundsTo.lt : q < 2 ^ (x.exponent + 53) := by
  have hpos : (0 : ℚ) < 2 ^ x.exponent := by positivity
  have hless : (x.significand : ℚ) + 1 ≤ 2 ^ 53 := by exact_mod_cast x.significand_lt
  have hpower : (2 : ℚ) ^ (x.exponent + 53) = 2 ^ 53 * 2 ^ x.exponent := two_zpow_add _ 53
  rw [hpower]
  nlinarith [h.bounds.2]

private theorem RoundsTo.magnitude_of_gridExponent_eq (hsame : gridExponent q = x.exponent) :
    magnitude q = ((x.exponentField * 2 ^ 52 + x.fraction : Nat) : Int) := by
  obtain ⟨hlow, hhigh, hends⟩ := h.near
  rw [bits_eq, magnitude, hsame, roundRat_eq_of_near hlow hhigh hsig hends]

/-- A rational number in the interval has a smaller exponent only a quarter of a unit at most below
a power of two. -/
theorem RoundsTo.of_gridExponent_lt (hsmaller : gridExponent q < x.exponent) :
    x.significand = 2 ^ 52 ∧ (2 ^ 52 - 1 / 4 : ℚ) * 2 ^ x.exponent ≤ q
      ∧ q < 2 ^ 52 * 2 ^ x.exponent := by
  have hpos : (0 : ℚ) < 2 ^ x.exponent := by positivity
  have hless : q < 2 ^ 52 * 2 ^ x.exponent := by
    by_contra! hge
    have hpower : (2 : ℚ) ^ (x.exponent + 52) = 2 ^ 52 * 2 ^ x.exponent := two_zpow_add _ 52
    exact hsmaller.not_ge (le_gridExponent (h.pos hsig) (hpower ▸ hge))
  have habove : -1074 < x.exponent := (neg_le_gridExponent q).trans_lt hsmaller
  have hleading := le_significand habove
  have hpowerOfTwo : x.significand = 2 ^ 52 := by
    by_contra hne
    have hlarge : (2 ^ 52 + 1 : ℚ) ≤ x.significand := by
      exact_mod_cast (by omega : 2 ^ 52 + 1 ≤ x.significand)
    nlinarith [h.near.1, (div_lt_iff₀ hpos).2 hless]
  refine ⟨hpowerOfTwo, ?_, hless⟩
  have hgap : x.gapBelow = 2 ^ x.exponent / 4 :=
    if_pos ⟨hpowerOfTwo, lt_exponentField_iff.2 habove⟩
  have hbounds := h.bounds.1
  rw [hpowerOfTwo, hgap] at hbounds
  push_cast at hbounds
  linarith

/-- A rational number with a smaller exponent rounds to twice the significand under the next smaller
one. -/
theorem RoundsTo.magnitude_of_gridExponent_lt (hsmaller : gridExponent q < x.exponent) :
    magnitude q = ((x.exponentField * 2 ^ 52 + x.fraction : Nat) : Int) := by
  have hpos : (0 : ℚ) < 2 ^ x.exponent := by positivity
  obtain ⟨hpowerOfTwo, hlow, hhigh⟩ := h.of_gridExponent_lt hsig hsmaller
  have hnext : gridExponent q = x.exponent - 1 := by
    have hpower : (2 : ℚ) ^ (x.exponent - 1 + 52) = 2 ^ 51 * 2 ^ x.exponent := by
      rw [← two_zpow_add x.exponent 51]
      congr 1
      ring
    have hge : x.exponent - 1 ≤ gridExponent q := by
      refine le_gridExponent (h.pos hsig) ?_
      rw [hpower]
      nlinarith
    omega
  have hhalf : (2 : ℚ) ^ (x.exponent - 1) = 2 ^ x.exponent / 2 := zpow_sub_one₀ two_ne_zero _
  have hround : roundRat (q / 2 ^ (x.exponent - 1)) = (2 ^ 53 : Nat) := by
    rw [hhalf]
    refine roundRat_eq_of_near ?_ ?_ (by norm_num) (.inl (by norm_num))
    · rw [le_div_iff₀ (by positivity)]
      push_cast
      linarith
    · rw [div_le_iff₀ (by positivity)]
      push_cast
      linarith
  rw [bits_eq, magnitude, hnext, hround, hpowerOfTwo]
  push_cast
  ring

private theorem RoundsTo.magnitude_eq :
    magnitude q = ((x.exponentField * 2 ^ 52 + x.fraction : Nat) : Int) := by
  rcases (gridExponent_le x.neg_le_exponent (h.pos hsig) h.lt).lt_or_eq with hsmaller | hsame
  · exact h.magnitude_of_gridExponent_lt hsig hsmaller
  · exact h.magnitude_of_gridExponent_eq hsig hsame

end Finite

theorem RoundsTo.ofRatio_eq (hfinite : x.isFinite = true) (hsig : 0 < x.significand) (ha : 0 < a)
    (hb : 0 < b) (h : x.RoundsTo ((a : ℚ) / b)) : ofRatio x.isNegative a b = x := by
  have hfield : x.exponentField < 2047 := by simpa [isFinite] using hfinite
  have hfraction := x.fraction_lt
  rw [Binary64.ofRatio_eq _ ha hb, h.magnitude_eq hsig, if_neg (by omega), Int.natAbs_natCast,
    ofFields_bits]

private theorem lt_tenTo_length (d : Nat) : d < 10 ^ (Nat.toDigits 10 d).length :=
  (Nat.length_toDigits_le_iff (by decide) Nat.length_toDigits_pos).1 le_rfl

private theorem tenTo_length_le (hd : 0 < d) : 10 ^ ((Nat.toDigits 10 d).length - 1) ≤ d := by
  rcases Nat.eq_zero_or_pos ((Nat.toDigits 10 d).length - 1) with hzero | hpos
  · rw [hzero]
    exact hd
  · have hlength := mt (Nat.length_toDigits_le_iff (n := d) (b := 10) (by decide) hpos).2
    omega

private theorem RoundsTo.places_bounds (hfinite : x.isFinite = true) (hsig : 0 < x.significand)
    (hd : 0 < d) (h : x.RoundsTo (d * 10 ^ k)) :
    -330 ≤ (Nat.toDigits 10 d).length + k ∧ (Nat.toDigits 10 d).length + k ≤ 310 := by
  have hpow : (0 : ℚ) < 10 ^ k := by positivity
  obtain ⟨n, hn⟩ : ∃ n, (Nat.toDigits 10 d).length = n + 1 :=
    ⟨(Nat.toDigits 10 d).length - 1, by have := @Nat.length_toDigits_pos 10 d; omega⟩
  have hhigh := lt_tenTo_length d
  have hlow := tenTo_length_le hd
  rw [hn] at hhigh hlow ⊢
  have hhigh' : (d : ℚ) * 10 ^ k < 10 ^ ((n : Int) + 1 + k) := by
    rw [zpow_add₀ (by norm_num)]
    gcongr
    exact_mod_cast hhigh
  have hlow' : (10 : ℚ) ^ ((n : Int) + k) ≤ d * 10 ^ k := by
    rw [zpow_add₀ (by norm_num)]
    gcongr
    exact_mod_cast hlow
  push_cast
  constructor
  · by_contra! hless
    have hsmall : (10 : ℚ) ^ ((n : Int) + 1 + k) ≤ 10 ^ (-331 : Int) :=
      zpow_le_zpow_right₀ (by norm_num) (by omega)
    have hbit : (2 : ℚ) ^ (-1074 : Int) ≤ 2 ^ x.exponent :=
      zpow_le_zpow_right₀ (by norm_num) x.neg_le_exponent
    have hnumbers : (10 : ℚ) ^ (-331 : Int) < 2 ^ (-1074 : Int) / 2 := by
      have hnat : 2 ^ 1074 * 2 < 10 ^ 331 := by decide +kernel
      rw [zpow_neg, zpow_neg, ← one_div, ← one_div, div_div]
      exact one_div_lt_one_div_of_lt (by positivity) (by exact_mod_cast hnat)
    have hle := h.le hsig
    linarith
  · by_contra! hless
    have hlarge : (10 : ℚ) ^ (310 : Int) ≤ 10 ^ ((n : Int) + k) :=
      zpow_le_zpow_right₀ (by norm_num) (by omega)
    have hbit : (2 : ℚ) ^ (x.exponent + 53) ≤ 2 ^ (1024 : Int) :=
      zpow_le_zpow_right₀ (by norm_num) (by have := exponent_le hfinite; omega)
    have hnumbers : (2 : ℚ) ^ (1024 : Int) < 10 ^ (310 : Int) := by
      have hnat : 2 ^ 1024 < 10 ^ 310 := by decide +kernel
      exact_mod_cast hnat
    exact lt_irrefl _ (((hlarge.trans hlow').trans_lt (h.lt.trans_le hbit)).trans hnumbers)

private theorem RoundsTo.ofDecimal_eq (hfinite : x.isFinite = true) (hsig : 0 < x.significand)
    (hd : 0 < d)
    (h : x.RoundsTo (d * 10 ^ k)) : ofDecimal x.isNegative d k = x := by
  obtain ⟨hlow, hhigh⟩ := h.places_bounds hfinite hsig hd
  have hzero : (decide (d = 0) || decide ((Nat.toDigits 10 d).length + k < -330)) = false := by
    simp only [Bool.or_eq_false_iff, decide_eq_false_iff_not]
    omega
  simp only [ofDecimal, hzero, Bool.false_eq_true, if_false, if_neg hhigh.not_gt]
  split
  · next hneg =>
    obtain ⟨n, rfl⟩ : ∃ n : Nat, k = -n := ⟨k.natAbs, by omega⟩
    rw [Int.natAbs_neg, Int.natAbs_natCast]
    refine RoundsTo.ofRatio_eq hfinite hsig hd (tenTo_pos n) ?_
    rw [tenTo_eq]
    push_cast
    rwa [zpow_neg, zpow_natCast, ← div_eq_mul_inv] at h
  · next hpos =>
    obtain ⟨n, rfl⟩ : ∃ n : Nat, k = n := ⟨k.natAbs, by omega⟩
    rw [Int.natAbs_natCast]
    refine RoundsTo.ofRatio_eq hfinite hsig (Nat.mul_pos hd (tenTo_pos n)) Nat.one_pos ?_
    rw [tenTo_eq]
    push_cast
    rwa [zpow_natCast, ← div_one ((d : ℚ) * 10 ^ n)] at h

theorem scaleDown_pos (e k : Int) : 0 < scaleDown e k := by
  have htwo := twoTo_pos e.natAbs
  have hten := tenTo_pos k.natAbs
  unfold scaleDown
  split <;> split <;> positivity

theorem zpow_natAbs_mul {base : ℚ} (hbase : base ≠ 0) {n : Int} (hn : n < 0) :
    base ^ n.natAbs * base ^ n = 1 := by
  have hsum : (n.natAbs : Int) + n = 0 := by omega
  rw [← zpow_natCast, ← zpow_add₀ hbase, hsum, zpow_zero]

theorem zpow_natAbs {base : ℚ} {n : Int} (hn : 0 ≤ n) : base ^ n.natAbs = base ^ n := by
  rw [← zpow_natCast, Int.natAbs_of_nonneg hn]

theorem scaleUp_mul (e k : Int) : (scaleUp e k : ℚ) * 10 ^ k = scaleDown e k * 2 ^ e := by
  have htwo : ((if 0 ≤ e then twoTo e.natAbs else 1 : Nat) : ℚ)
      = (if 0 ≤ e then 1 else twoTo e.natAbs : Nat) * 2 ^ e := by
    rw [twoTo_eq]
    split
    · next he => simp [zpow_natAbs he]
    · next he => simp [zpow_natAbs_mul two_ne_zero (by omega : e < 0)]
  have hten : ((if k < 0 then tenTo k.natAbs else 1 : Nat) : ℚ) * 10 ^ k
      = (if k < 0 then 1 else tenTo k.natAbs : Nat) := by
    rw [tenTo_eq]
    split
    · next hk => simp [zpow_natAbs_mul (by norm_num : (10 : ℚ) ≠ 0) hk]
    · next hk => simp [zpow_natAbs (by omega : 0 ≤ k)]
  rw [scaleUp, scaleDown, Nat.cast_mul, Nat.cast_mul, mul_assoc, hten, htwo]
  ring

theorem scaled_le_iff (e : Int) :
    (a * scaleUp e k ≤ c * scaleDown e k ↔ (a : ℚ) * 2 ^ e ≤ c * 10 ^ k)
      ∧ (c * scaleDown e k ≤ a * scaleUp e k ↔ (c : ℚ) * 10 ^ k ≤ a * 2 ^ e) := by
  have hdown : (0 : ℚ) < scaleDown e k := by exact_mod_cast scaleDown_pos e k
  have hpow : (0 : ℚ) < 10 ^ k := by positivity
  have hup : (a : ℚ) * scaleUp e k * 10 ^ k = scaleDown e k * (a * 2 ^ e) := by
    rw [mul_assoc, scaleUp_mul]
    ring
  have hmultiple : (c : ℚ) * scaleDown e k * 10 ^ k = scaleDown e k * (c * 10 ^ k) := by ring
  constructor
  · rw [← @Nat.cast_le ℚ, Nat.cast_mul, Nat.cast_mul, ← mul_le_mul_iff_left₀ hpow, hup, hmultiple,
      mul_le_mul_iff_right₀ hdown]
  · rw [← @Nat.cast_le ℚ, Nat.cast_mul, Nat.cast_mul, ← mul_le_mul_iff_left₀ hpow, hup, hmultiple,
      mul_le_mul_iff_right₀ hdown]

theorem two_zpow_sub_two (e : Int) : (2 : ℚ) ^ (e - 2) = 2 ^ e / 4 := by
  rw [zpow_sub₀ two_ne_zero]
  norm_num

private theorem lowEnd_eq (hsig : 0 < x.significand) :
    (x.lowEnd : ℚ) * 2 ^ (x.exponent - 2) = x.significand * 2 ^ x.exponent - x.gapBelow := by
  rw [lowEnd, gapBelow, two_zpow_sub_two, twoTo_eq]
  split
  · rw [Nat.cast_sub (by omega)]
    push_cast
    ring
  · rw [Nat.cast_sub (by omega)]
    push_cast
    ring

private theorem highEnd_eq (x : Binary64) : (x.highEnd : ℚ) * 2 ^ (x.exponent - 2)
    = x.significand * 2 ^ x.exponent + 2 ^ x.exponent / 2 := by
  rw [highEnd, two_zpow_sub_two]
  push_cast
  ring

theorem isRoundedFrom_iff (hsig : 0 < x.significand) :
    x.isRoundedFrom k c = true ↔ x.RoundsTo (c * 10 ^ k) := by
  unfold isRoundedFrom RoundsTo
  rw [← lowEnd_eq hsig, ← highEnd_eq]
  split
  · rw [Bool.and_eq_true, decide_eq_true_eq, decide_eq_true_eq, (scaled_le_iff _).1,
      (scaled_le_iff _).2]
  · rw [Bool.and_eq_true, decide_eq_true_eq, decide_eq_true_eq, ← not_le, (scaled_le_iff _).2,
      ← not_le, (scaled_le_iff _).1, not_le, not_le]

private theorem roundsTo_of_multipleAt? (hsig : 0 < x.significand) (h : x.multipleAt? k = some d) :
    0 < d ∧ x.RoundsTo (d * 10 ^ k) := by
  have hmultiple {n : Nat} (hn : (decide (0 < n) && x.isRoundedFrom k n) = true) :
      0 < n ∧ x.RoundsTo (n * 10 ^ k) := by
    rwa [Bool.and_eq_true, decide_eq_true_eq, isRoundedFrom_iff hsig] at hn
  simp only [multipleAt?] at h
  split at h
  · next hnearest => exact Option.some.inj h ▸ hmultiple hnearest
  · split at h
    · next hbelow => exact Option.some.inj h ▸ hmultiple hbelow
    · split at h
      · next habove =>
        exact Option.some.inj h ▸ ⟨Nat.succ_pos _, (isRoundedFrom_iff hsig).1 habove⟩
      · cases h

private theorem roundsTo_of_abs_sub_le
    (h : |q - x.significand * 2 ^ x.exponent| ≤ 2 ^ x.exponent / 4) :
    x.RoundsTo q := by
  have hpos : (0 : ℚ) < 2 ^ x.exponent := by positivity
  obtain ⟨hlow, hhigh⟩ := abs_le.1 h
  unfold RoundsTo gapBelow
  split
  · split <;> constructor <;> linarith
  · next hodd =>
    rw [if_neg (by rintro ⟨hpower, -⟩; omega)]
    constructor <;> linarith

/-- Where the power of ten is not greater than half of the last bit, its nearest multiple lies in
the interval. -/
theorem isSome_multipleAt? (hsig : 0 < x.significand) (hk : (10 : ℚ) ^ k ≤ 2 ^ x.exponent / 2) :
    (x.multipleAt? k).isSome = true := by
  have hpow : (0 : ℚ) < 10 ^ k := by positivity
  have hdown := scaleDown_pos (x.exponent - 2) k
  have hdown' : (0 : ℚ) < scaleDown (x.exponent - 2) k := by exact_mod_cast hdown
  have hquotient : ((4 * x.significand * scaleUp (x.exponent - 2) k : Nat) : ℚ)
      / scaleDown (x.exponent - 2) k * 10 ^ k = x.significand * 2 ^ x.exponent := by
    have hscale := scaleUp_mul (x.exponent - 2) k
    rw [two_zpow_sub_two] at hscale
    rw [div_mul_eq_mul_div, div_eq_iff hdown'.ne', Nat.cast_mul, mul_assoc, hscale]
    push_cast
    ring
  have hround := abs_roundRat_sub_le
    (x := ((4 * x.significand * scaleUp (x.exponent - 2) k : Nat) : ℚ)
      / scaleDown (x.exponent - 2) k) (by positivity)
  rw [← roundDiv_eq_roundRat hdown, Int.cast_natCast] at hround
  generalize hn : roundDiv (4 * x.significand * scaleUp (x.exponent - 2) k)
    (scaleDown (x.exponent - 2) k) = n at hround
  have hnear : |(n : ℚ) * 10 ^ k - x.significand * 2 ^ x.exponent| ≤ 2 ^ x.exponent / 4 := by
    rw [← hquotient, ← sub_mul, abs_mul, abs_of_pos hpow]
    nlinarith
  have hin := roundsTo_of_abs_sub_le hnear
  have hpos : 0 < n := by
    rcases Nat.eq_zero_or_pos n with rfl | hpos
    · simpa using hin.pos hsig
    · exact hpos
  have hcond : (decide (0 < n) && x.isRoundedFrom k n) = true := by
    rw [Bool.and_eq_true, decide_eq_true_eq]
    exact ⟨hpos, (isRoundedFrom_iff hsig).2 hin⟩
  rw [multipleAt?, hn, if_pos hcond]
  rfl

/-- A thousand is less than the tenth power of two, and the ninety-third power of two is less than
the twenty-eighth power of ten. -/
theorem ten_zpow_le_two_zpow {t s : Int} (hpos : 0 ≤ t → 10 * t ≤ 3 * s)
    (hneg : t < 0 → 93 * t ≤ 28 * s) : (10 : ℚ) ^ t ≤ 2 ^ s := by
  rcases lt_or_ge t 0 with ht | ht
  · have hbound := hneg ht
    obtain ⟨n, rfl⟩ : ∃ n : Nat, t = -n := ⟨t.natAbs, by omega⟩
    rcases lt_or_ge s 0 with hs | hs
    · obtain ⟨m, rfl⟩ : ∃ m : Nat, s = -m := ⟨s.natAbs, by omega⟩
      have hpow : 2 ^ m ≤ 10 ^ n := by
        rw [← Nat.pow_le_pow_iff_left (n := 28) (by decide)]
        calc (2 ^ m) ^ 28 = 2 ^ (28 * m) := by rw [← pow_mul, mul_comm]
          _ ≤ 2 ^ (93 * n) := Nat.pow_le_pow_right (by decide) (by omega)
          _ = (2 ^ 93) ^ n := pow_mul 2 93 n
          _ ≤ (10 ^ 28) ^ n := Nat.pow_le_pow_left (by decide) n
          _ = (10 ^ n) ^ 28 := by rw [← pow_mul, ← pow_mul, mul_comm]
      rw [zpow_neg, zpow_neg, zpow_natCast, zpow_natCast]
      exact inv_anti₀ (by positivity) (by exact_mod_cast hpow)
    · calc (10 : ℚ) ^ (-n : Int) ≤ 1 := zpow_le_one_of_nonpos₀ (by norm_num) (by omega)
        _ ≤ 2 ^ s := one_le_zpow₀ (by norm_num) hs
  · have hbound := hpos ht
    obtain ⟨n, rfl⟩ := Int.eq_ofNat_of_zero_le ht
    obtain ⟨m, rfl⟩ := Int.eq_ofNat_of_zero_le (by omega : 0 ≤ s)
    have hpow : 10 ^ n ≤ 2 ^ m := by
      rw [← Nat.pow_le_pow_iff_left (n := 3) (by decide)]
      calc (10 ^ n) ^ 3 = (10 ^ 3) ^ n := by rw [← pow_mul, ← pow_mul, mul_comm]
        _ ≤ (2 ^ 10) ^ n := Nat.pow_le_pow_left (by decide) n
        _ = 2 ^ (10 * n) := (pow_mul 2 10 n).symm
        _ ≤ 2 ^ (m * 3) := Nat.pow_le_pow_right (by decide) (by omega)
        _ = (2 ^ m) ^ 3 := pow_mul 2 m 3
    rw [zpow_natCast, zpow_natCast]
    exact_mod_cast hpow

/-- The search for the shortest decimal ends in the interval of the number. -/
theorem roundsTo_shortest (hfinite : x.isFinite = true) (hsig : 0 < x.significand) :
    0 < x.shortest.digits ∧ x.RoundsTo (x.shortest.digits * 10 ^ x.shortest.exponent) := by
  have hlog : x.significand.log2 < 53 := (Nat.log2_lt hsig.ne').2 x.significand_lt
  have hleast := x.neg_le_exponent
  have hgreatest := exponent_le hfinite
  generalize htop : ((x.significand.log2 + x.exponent + 1) * 30103 / 100000 + 1 : Int) = top
  have hlast : (x.multipleAt? (top - 21)).isSome = true := by
    apply isSome_multipleAt? hsig
    have hhalf : (2 : ℚ) ^ (x.exponent - 1) = 2 ^ x.exponent / 2 := by
      rw [zpow_sub_one₀ two_ne_zero]
      rfl
    rw [← hhalf]
    apply ten_zpow_le_two_zpow <;> intro <;> omega
  obtain ⟨c, hc⟩ := Option.isSome_iff_exists.1 hlast
  have hfound : ((List.range 22).findSome? fun (i : Nat) =>
      (x.multipleAt? (top - i)).map fun d => (⟨d, top - i⟩ : Decimal)).isSome = true := by
    rw [List.findSome?_isSome_iff]
    exact ⟨21, by decide, by simp [hc]⟩
  obtain ⟨found, hfound⟩ := Option.isSome_iff_exists.1 hfound
  obtain ⟨i, -, hi⟩ := List.exists_of_findSome?_eq_some hfound
  obtain ⟨d, hd, rfl⟩ := Option.map_eq_some_iff.1 hi
  rw [shortest, htop, hfound, Option.getD_some]
  exact roundsTo_of_multipleAt? hsig hd

/-- Whatever writes the shortest decimal of a number is read as the number. -/
theorem ofDecimal_of_eq_shortest (hfinite : x.isFinite = true) (hsig : 0 < x.significand)
    (h : (d : ℚ) * 10 ^ k = x.shortest.digits * 10 ^ x.shortest.exponent) :
    ofDecimal x.isNegative d k = x := by
  obtain ⟨hdigits, hround⟩ := roundsTo_shortest hfinite hsig
  have hd : 0 < d := by
    rcases Nat.eq_zero_or_pos d with rfl | hd
    · have hpos : (0 : ℚ) < x.shortest.digits * 10 ^ x.shortest.exponent := by positivity
      rw [← h] at hpos
      simp at hpos
    · exact hd
  rw [← h] at hround
  exact hround.ofDecimal_eq hfinite hsig hd

end SiteTemplate.Binary64
