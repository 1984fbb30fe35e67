import SiteTemplate.Proofs.RoundingOrder

/-!
# Rounding stays near

A rational number is rounded to the nearest multiple of its last bit, so it moves by at most half of
that bit. Whole numbers of at most fifty-three bits do not move.
-/

namespace SiteTemplate.Binary64

variable {a b : Nat} {x : ℚ}

private theorem roundDiv_bounds (hb : 0 < b) :
    2 * a ≤ (2 * roundDiv a b + 1) * b ∧ 2 * roundDiv a b * b ≤ 2 * a + b := by
  have hnotBelow := mt (lt_roundDiv_iff (a := a) hb).2 (Nat.lt_irrefl (roundDiv a b))
  push Not at hnotBelow
  refine ⟨hnotBelow.1, ?_⟩
  rcases Nat.eq_zero_or_pos (roundDiv a b) with hzero | hpos
  · simp [hzero]
  · obtain ⟨k, hk⟩ := Nat.exists_eq_add_of_lt hpos
    have hbelow := (lt_roundDiv_iff (a := a) (k := k) hb).1 (by omega)
    have hle : (2 * k + 1) * b ≤ 2 * a := by
      rcases hbelow with hlt | ⟨heq, -⟩
      · exact hlt.le
      · exact heq.le
    rw [hk]
    nlinarith

/-- No number is more than a half away from the whole number to which it is rounded. -/
theorem abs_roundRat_sub_le (hx : 0 ≤ x) : |(roundRat x : ℚ) - x| ≤ 1 / 2 := by
  obtain ⟨a, b, hb, rfl⟩ := exists_eq_div hx
  obtain ⟨hlow, hhigh⟩ := roundDiv_bounds (a := a) hb
  have hb' : (0 : ℚ) < b := by exact_mod_cast hb
  have hlow' : 2 * (a : ℚ) ≤ (2 * roundDiv a b + 1) * b := by exact_mod_cast hlow
  have hhigh' : 2 * (roundDiv a b : ℚ) * b ≤ 2 * a + b := by exact_mod_cast hhigh
  rw [← roundDiv_eq_roundRat hb, Int.cast_natCast, abs_le]
  constructor
  · rw [le_sub_iff_add_le, ← sub_eq_neg_add, sub_le_iff_le_add, div_le_iff₀ hb']
    linarith
  · rw [sub_le_iff_le_add, ← sub_le_iff_le_add', le_div_iff₀ hb']
    linarith

theorem gridExponent_le {k : Int} (hk : -1074 ≤ k) (hx : 0 < x) (h : x < 2 ^ (k + 53)) :
    gridExponent x ≤ k := by
  have hlog := (Int.lt_zpow_iff_log_lt (b := 2) (by norm_num) hx).1 (by exact_mod_cast h)
  unfold gridExponent
  omega

theorem magnitude_lt (hx : 0 < x) (h : x < 2 ^ 53) : magnitude x < 2047 * 2 ^ 52 := by
  have hexponent : gridExponent x ≤ 0 := gridExponent_le (by norm_num) hx (by exact_mod_cast h)
  have hround := roundRat_scaled_le hx
  unfold magnitude
  omega

/-- An exponent and a significand put together as bits; a significand of fifty-four bits carries
over into the exponent. -/
theorem toRat_ofFields_add {e m : Nat} (hm : m ≤ 2 ^ 53) (hleading : 0 < e → 2 ^ 52 ≤ m)
    (h : e * 2 ^ 52 + m ≤ 2047 * 2 ^ 52) :
    (ofFields false (e * 2 ^ 52 + m)).toRat = m * 2 ^ ((e : Int) - 1074) := by
  rw [toRat_ofFields h]
  rcases Nat.lt_or_ge m (2 ^ 52) with hsmall | hlarge
  · obtain rfl : e = 0 := by omega
    have hquotient : (0 * 2 ^ 52 + m) / 2 ^ 52 = 0 := by omega
    have hremainder : (0 * 2 ^ 52 + m) % 2 ^ 52 = m := by omega
    rw [if_pos hquotient, hquotient, hremainder]
    norm_num
  rcases hm.lt_or_eq with hless | rfl
  · have hquotient : (e * 2 ^ 52 + m) / 2 ^ 52 = e + 1 := by omega
    have hremainder : 2 ^ 52 + (e * 2 ^ 52 + m) % 2 ^ 52 = m := by omega
    have hexponent : ((max 1 (e + 1) : Nat) : Int) - 1075 = e - 1074 := by omega
    rw [if_neg (by omega), hremainder, hquotient, hexponent]
  · have hquotient : (e * 2 ^ 52 + 2 ^ 53) / 2 ^ 52 = e + 2 := by omega
    have hremainder : 2 ^ 52 + (e * 2 ^ 52 + 2 ^ 53) % 2 ^ 52 = 2 ^ 52 := by omega
    have hexponent : ((max 1 (e + 2) : Nat) : Int) - 1075 = (e - 1074) + 1 := by omega
    rw [if_neg (by omega), hremainder, hquotient, hexponent, zpow_add₀ two_ne_zero]
    norm_num
    ring

private theorem toRat_ofFields_magnitude (hx : 0 < x) (h : x < 2 ^ 53) :
    (ofFields false (magnitude x).natAbs).toRat
      = roundRat (x / 2 ^ gridExponent x) * 2 ^ gridExponent x := by
  have hmagnitude := magnitude_lt hx h
  have hround := roundRat_scaled_nonneg hx
  have hroundLe := roundRat_scaled_le hx
  have hleading := le_roundRat_scaled hx
  unfold magnitude at hmagnitude ⊢
  obtain ⟨e, he⟩ : ∃ e : Nat, gridExponent x = e - 1074 :=
    ⟨(gridExponent x + 1074).toNat, by have := neg_le_gridExponent x; omega⟩
  obtain ⟨m, hm⟩ := Int.eq_ofNat_of_zero_le hround
  rw [hm] at hmagnitude hroundLe hleading ⊢
  rw [he] at hmagnitude hleading ⊢
  have hbits : ((e : Int) - 1074 + 1074) * 2 ^ 52 + m = (e * 2 ^ 52 + m : Nat) := by
    push_cast
    ring
  rw [hbits] at hmagnitude ⊢
  rw [Int.natAbs_natCast, toRat_ofFields_add (by omega) (by omega) (by omega), Int.cast_natCast]

theorem toRat_ofRatio (ha : 0 < a) (hb : 0 < b) (h : (a : ℚ) / b < 2 ^ 53) :
    (ofRatio false a b).toRat
      = roundRat ((a : ℚ) / b / 2 ^ gridExponent ((a : ℚ) / b))
        * 2 ^ gridExponent ((a : ℚ) / b) := by
  have hx : (0 : ℚ) < a / b := by positivity
  rw [ofRatio_eq false ha hb, if_neg (magnitude_lt hx h).not_ge, toRat_ofFields_magnitude hx h]

private theorem abs_scaled_sub_le (hx : 0 < x) :
    |(roundRat (x / 2 ^ gridExponent x) : ℚ) * 2 ^ gridExponent x - x|
      ≤ 2 ^ gridExponent x / 2 := by
  have hbit : (0 : ℚ) < 2 ^ gridExponent x := by positivity
  have hround := abs_roundRat_sub_le (x := x / 2 ^ gridExponent x) (by positivity)
  generalize (2 : ℚ) ^ gridExponent x = bit at *
  have hscaled : (roundRat (x / bit) : ℚ) * bit - x = (roundRat (x / bit) - x / bit) * bit := by
    field_simp
  rw [hscaled, abs_mul, abs_of_pos hbit]
  linarith [mul_le_mul_of_nonneg_right hround hbit.le]

/-- A number is rounded to one that is not farther away than half of a last bit that is large
enough for it. -/
theorem abs_toRat_ofRat_sub_le {k : Int} (hk : -1074 ≤ k) (hk' : k ≤ 0) (hx : 0 ≤ x)
    (h : x < 2 ^ (k + 53)) : |(ofRat x).toRat - x| ≤ 2 ^ k / 2 := by
  rcases hx.eq_or_lt with rfl | hpos
  · have hzero : (ofRat 0).toRat = 0 := toRat_zero
    rw [hzero, sub_zero, abs_zero]
    positivity
  · have hquotient : (x.num.natAbs : ℚ) / x.den = x := by rw [natAbs_num hx, Rat.num_div_den]
    have hnum : 0 < x.num.natAbs := Int.natAbs_pos.2 (Rat.num_pos.2 hpos).ne'
    have hpower : (2 : ℚ) ^ (k + 53) ≤ 2 ^ (53 : Int) :=
      zpow_le_zpow_right₀ (by norm_num) (by omega)
    have hlimit : x < 2 ^ 53 := h.trans_le hpower
    have hrat := toRat_ofRatio hnum x.den_pos (by rwa [hquotient])
    rw [hquotient] at hrat
    rw [ofRat, decide_eq_false (by simpa using hx), hrat]
    refine (abs_scaled_sub_le hpos).trans ?_
    have hbit : (2 : ℚ) ^ gridExponent x ≤ 2 ^ k :=
      zpow_le_zpow_right₀ (by norm_num) (gridExponent_le hk hpos h)
    linarith

/-- Whole numbers of at most fifty-three bits are told exactly. -/
theorem toRat_ofInt (h : a < 2 ^ 53) : (ofInt a).toRat = a := by
  rw [ofInt, decide_eq_false (by simp), Int.natAbs_natCast]
  rcases Nat.eq_zero_or_pos a with rfl | ha
  · exact toRat_zero
  · have hx : (0 : ℚ) < a := by exact_mod_cast ha
    have hlimit : (a : ℚ) < 2 ^ 53 := by exact_mod_cast h
    have hexponent : gridExponent (a : ℚ) ≤ 0 :=
      gridExponent_le (by norm_num) hx (by exact_mod_cast hlimit)
    have hrat := toRat_ofRatio ha Nat.one_pos (by simpa using hlimit)
    rw [Nat.cast_one, div_one] at hrat
    obtain ⟨n, hn⟩ := Int.exists_eq_neg_ofNat hexponent
    have hscaled : (a : ℚ) / 2 ^ gridExponent (a : ℚ) = ((a * 2 ^ n : Nat) : ℚ) := by
      rw [hn, zpow_neg, div_inv_eq_mul, zpow_natCast]
      push_cast
      rfl
    rw [hrat, hscaled, roundRat_natCast, hn]
    push_cast
    rw [mul_assoc, ← zpow_natCast, ← zpow_add₀ two_ne_zero]
    simp

end SiteTemplate.Binary64
