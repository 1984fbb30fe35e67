import Mathlib.Algebra.Order.Field.Power
import Mathlib.Data.Int.Log
import Mathlib.Data.Rat.Cast.Order
import Mathlib.Data.Rat.Floor
import Mathlib.Tactic.FieldSimp
import Mathlib.Tactic.GCongr
import Mathlib.Tactic.Linarith
import Mathlib.Tactic.Positivity
import Mathlib.Tactic.Ring
import SiteTemplate.Number.Decimal

/-!
# Rounding keeps the order

Every operation on double-precision numbers rounds an exact rational result. Rounding to whole
numbers keeps the order, and so does rounding to double precision, infinity included: the bits of a
number that is not negative, read as one whole number, grow with the number.
-/

namespace SiteTemplate

theorem twoTo_eq (n : Nat) : twoTo n = 2 ^ n := rfl

theorem tenTo_eq (n : Nat) : tenTo n = 10 ^ n := rfl

namespace Binary64

variable {a b c d k : Nat}

theorem lt_roundDiv_iff (hb : 0 < b) :
    k < roundDiv a b ↔ (2 * k + 1) * b < 2 * a ∨ (2 * k + 1) * b = 2 * a ∧ k % 2 = 1 := by
  have ha : a = b * (a / b) + a % b := (Nat.div_add_mod a b).symm
  have hr : a % b < b := Nat.mod_lt a hb
  simp only [roundDiv]
  generalize a / b = q at *
  generalize a % b = r at *
  subst ha
  -- Halfway between two whole numbers matters only where the quotient lies between them.
  rcases Nat.lt_trichotomy k q with hk | rfl | hk
  · have hbelow : (k + 1) * b ≤ q * b := Nat.mul_le_mul_right b hk
    have hleft : (2 * k + 1) * b < 2 * (b * q + r) := by nlinarith
    have hright : k < if b < 2 * r ∨ 2 * r = b ∧ q % 2 = 1 then q + 1 else q := by split <;> omega
    exact iff_of_true hright (.inl hleft)
  · have hless : (2 * k + 1) * b < 2 * (b * k + r) ↔ b < 2 * r := by
      constructor <;> intro h <;> nlinarith
    have hequal : (2 * k + 1) * b = 2 * (b * k + r) ↔ 2 * r = b := by
      constructor <;> intro h <;> nlinarith
    rw [hless, hequal]
    split <;> simp_all
  · have habove : (q + 1) * b ≤ k * b := Nat.mul_le_mul_right b hk
    have hleft : 2 * (b * q + r) < (2 * k + 1) * b := by nlinarith
    have hright : (if b < 2 * r ∨ 2 * r = b ∧ q % 2 = 1 then q + 1 else q) ≤ k := by
      split <;> omega
    constructor
    · intro h
      omega
    · rintro (h | ⟨h, -⟩) <;> omega

theorem roundDiv_le_roundDiv (hb : 0 < b) (hd : 0 < d) (h : a * d ≤ c * b) :
    roundDiv a b ≤ roundDiv c d := by
  by_contra hgt
  rw [Nat.not_le, lt_roundDiv_iff hb] at hgt
  refine absurd ((lt_roundDiv_iff hd).2 ?_) (Nat.lt_irrefl (roundDiv c d))
  generalize roundDiv c d = k at *
  rcases hgt with hless | ⟨hequal, hodd⟩
  · have hscaled : (2 * k + 1) * d * b < 2 * c * b := by nlinarith
    exact .inl (Nat.lt_of_mul_lt_mul_right hscaled)
  · have hscaled : (2 * k + 1) * d * b ≤ 2 * c * b := by nlinarith
    rcases (Nat.le_of_mul_le_mul_right hscaled hb).lt_or_eq with hlt | heq
    · exact .inl hlt
    · exact .inr ⟨heq, hodd⟩

private theorem roundDiv_one (n : Nat) : roundDiv n 1 = n := by simp [roundDiv, Nat.mod_one]

theorem natAbs_num {x : ℚ} (hx : 0 ≤ x) : ((x.num.natAbs : Nat) : ℚ) = x.num := by
  rw [← Int.cast_natCast, Int.natAbs_of_nonneg (Rat.num_nonneg.2 hx)]

/-- A quotient is rounded as the rational number that it stands for. -/
theorem roundDiv_eq_roundRat (hb : 0 < b) : (roundDiv a b : Int) = roundRat ((a : ℚ) / b) := by
  generalize hq : (a : ℚ) / b = q
  have hnonneg : 0 ≤ q := hq ▸ by positivity
  have hnum : ((q.num.natAbs : Nat) : ℚ) = q * q.den := by
    rw [Rat.mul_den_eq_num, natAbs_num hnonneg]
  have hcross : a * q.den = q.num.natAbs * b := by
    have hb' : (b : ℚ) ≠ 0 := by positivity
    have hrat : (a : ℚ) * q.den = q.num.natAbs * b := by
      rw [hnum, ← hq]
      field_simp
    exact_mod_cast hrat
  have heq : roundDiv a b = roundDiv q.num.natAbs q.den :=
    Nat.le_antisymm (roundDiv_le_roundDiv hb q.den_pos hcross.le)
      (roundDiv_le_roundDiv q.den_pos hb hcross.ge)
  rw [roundRat, if_neg (by simpa using hnonneg), heq]

theorem exists_eq_div {x : ℚ} (hx : 0 ≤ x) : ∃ n d : Nat, 0 < d ∧ x = n / d := by
  refine ⟨x.num.natAbs, x.den, x.den_pos, ?_⟩
  rw [natAbs_num hx, Rat.num_div_den]

theorem roundRat_le_roundRat {x y : ℚ} (hx : 0 ≤ x) (h : x ≤ y) : roundRat x ≤ roundRat y := by
  obtain ⟨a, b, hb, rfl⟩ := exists_eq_div hx
  obtain ⟨c, d, hd, rfl⟩ := exists_eq_div (hx.trans h)
  rw [← roundDiv_eq_roundRat hb, ← roundDiv_eq_roundRat hd]
  rw [div_le_div_iff₀ (by positivity) (by positivity)] at h
  exact_mod_cast roundDiv_le_roundDiv hb hd (by exact_mod_cast h)

@[simp] theorem roundRat_natCast (n : Nat) : roundRat n = n := by
  have h := roundDiv_eq_roundRat (a := n) (b := 1) Nat.one_pos
  rw [roundDiv_one, Nat.cast_one, div_one] at h
  exact h.symm

theorem roundRat_nonneg {x : ℚ} (hx : 0 ≤ x) : 0 ≤ roundRat x := by
  have hle := roundRat_le_roundRat (x := (0 : Nat)) (by simp) (by simpa using hx)
  rwa [roundRat_natCast] at hle

/-- The exponent of the last bit to which a positive rational number is rounded. -/
def gridExponent (x : ℚ) : Int := max (-1074) (Int.log 2 x - 52)

/-- The bits of the number nearest to a positive rational number, as one whole number. -/
def magnitude (x : ℚ) : Int :=
  (gridExponent x + 1074) * 2 ^ 52 + roundRat (x / 2 ^ gridExponent x)

theorem log_eq {x : ℚ} {k : Int} (hlow : (2 : ℚ) ^ k ≤ x) (hhigh : x < 2 ^ (k + 1)) :
    Int.log 2 x = k := by
  have hx : 0 < x := lt_of_lt_of_le (by positivity) hlow
  have hle := (Int.zpow_le_iff_le_log (b := 2) (by norm_num) hx).1 (by exact_mod_cast hlow)
  have hlt := (Int.lt_zpow_iff_log_lt (b := 2) (by norm_num) hx).1 (by exact_mod_cast hhigh)
  omega

private theorem two_zpow_le_iff (hb : 0 < b) (e : Int) :
    (2 : ℚ) ^ e ≤ a / b ↔ if e < 0 then b ≤ a * twoTo e.natAbs else b * twoTo e.natAbs ≤ a := by
  have hb' : (0 : ℚ) < b := by exact_mod_cast hb
  rw [le_div_iff₀ hb']
  split
  · next hneg =>
    obtain ⟨n, rfl⟩ : ∃ n : Nat, e = -n := ⟨e.natAbs, by omega⟩
    rw [zpow_neg, inv_mul_le_iff₀ (by positivity), Int.natAbs_neg, Int.natAbs_natCast, zpow_natCast,
      twoTo_eq, mul_comm a]
    norm_cast
  · next hpos =>
    obtain ⟨n, rfl⟩ : ∃ n : Nat, e = n := ⟨e.natAbs, by omega⟩
    rw [Int.natAbs_natCast, zpow_natCast, twoTo_eq, mul_comm b]
    norm_cast

private theorem log_eq_of_log2 (ha : 0 < a) (hb : 0 < b) :
    Int.log 2 ((a : ℚ) / b)
      = if (2 : ℚ) ^ ((a.log2 : Int) - b.log2) ≤ a / b then (a.log2 : Int) - b.log2
        else (a.log2 : Int) - b.log2 - 1 := by
  have hb' : (0 : ℚ) < b := by exact_mod_cast hb
  have halow : (2 : ℚ) ^ (a.log2 : Int) ≤ a := by exact_mod_cast Nat.log2_self_le ha.ne'
  have hahigh : (a : ℚ) < 2 ^ ((a.log2 : Int) + 1) := by exact_mod_cast Nat.lt_log2_self
  have hblow : (2 : ℚ) ^ (b.log2 : Int) ≤ b := by exact_mod_cast Nat.log2_self_le hb.ne'
  have hbhigh : (b : ℚ) < 2 ^ ((b.log2 : Int) + 1) := by exact_mod_cast Nat.lt_log2_self
  generalize (a.log2 : Int) = i at *
  generalize (b.log2 : Int) = j at *
  split
  · next hle =>
    refine log_eq hle ?_
    rw [div_lt_iff₀ hb']
    calc (a : ℚ) < 2 ^ (i + 1) := hahigh
      _ = 2 ^ (i - j + 1) * 2 ^ j := by rw [← zpow_add₀ two_ne_zero]; congr 1; ring
      _ ≤ 2 ^ (i - j + 1) * b := by gcongr
  · next hlt =>
    refine log_eq ?_ (by simpa using hlt)
    rw [le_div_iff₀ hb']
    calc (2 : ℚ) ^ (i - j - 1) * b ≤ 2 ^ (i - j - 1) * 2 ^ (j + 1) := by gcongr
      _ = 2 ^ i := by rw [← zpow_add₀ two_ne_zero]; congr 1; ring
      _ ≤ a := halow

private theorem roundingExponent_eq (ha : 0 < a) (hb : 0 < b) :
    roundingExponent a b = gridExponent ((a : ℚ) / b) := by
  rw [gridExponent, log_eq_of_log2 ha hb, roundingExponent]
  simp only [two_zpow_le_iff hb]
  split <;> omega

private theorem scaled_eq (hb : 0 < b) (e : Int) :
    ((if e < 0 then roundDiv (a * twoTo e.natAbs) b else roundDiv a (b * twoTo e.natAbs) : Nat) :
      Int) = roundRat ((a : ℚ) / b / 2 ^ e) := by
  split
  · next hneg =>
    obtain ⟨n, rfl⟩ : ∃ n : Nat, e = -n := ⟨e.natAbs, by omega⟩
    rw [roundDiv_eq_roundRat hb, Int.natAbs_neg, Int.natAbs_natCast, zpow_neg, zpow_natCast,
      div_inv_eq_mul, twoTo_eq]
    push_cast
    rw [mul_div_right_comm]
  · next hpos =>
    obtain ⟨n, rfl⟩ : ∃ n : Nat, e = n := ⟨e.natAbs, by omega⟩
    rw [roundDiv_eq_roundRat (Nat.mul_pos hb (twoTo_pos _)), Int.natAbs_natCast, zpow_natCast,
      div_div, twoTo_eq]
    push_cast
    rfl

theorem ofRatio_eq (negative : Bool) (ha : 0 < a) (hb : 0 < b) :
    ofRatio negative a b
      = if 2047 * 2 ^ 52 ≤ magnitude ((a : ℚ) / b) then infinity negative
        else ofFields negative (magnitude ((a : ℚ) / b)).natAbs := by
  have hmagnitude : ((((gridExponent ((a : ℚ) / b) + 1074).natAbs * twoTo 52
      + if gridExponent ((a : ℚ) / b) < 0
        then roundDiv (a * twoTo (gridExponent ((a : ℚ) / b)).natAbs) b
        else roundDiv a (b * twoTo (gridExponent ((a : ℚ) / b)).natAbs)) : Nat) : Int)
      = magnitude ((a : ℚ) / b) := by
    have hleast : -1074 ≤ gridExponent ((a : ℚ) / b) := le_max_left _ _
    rw [Nat.cast_add, scaled_eq hb, magnitude, Nat.cast_mul, twoTo_eq,
      Int.natAbs_of_nonneg (by omega)]
    norm_cast
  rw [ofRatio, if_neg ha.ne', roundingExponent_eq ha hb]
  dsimp only
  rw [← hmagnitude, Int.natAbs_natCast]
  norm_cast

section Grid

variable {x y : ℚ}

private theorem gridExponent_le_gridExponent (hx : 0 < x) (h : x ≤ y) :
    gridExponent x ≤ gridExponent y :=
  max_le_max le_rfl (Int.sub_le_sub_right (Int.log_mono_right hx h) _)

theorem neg_le_gridExponent (x : ℚ) : -1074 ≤ gridExponent x := le_max_left _ _

theorem roundRat_scaled_nonneg (hx : 0 < x) : 0 ≤ roundRat (x / 2 ^ gridExponent x) :=
  roundRat_nonneg (by positivity)

/-- The scaled number has at most fifty-three bits. -/
theorem roundRat_scaled_le (hx : 0 < x) : roundRat (x / 2 ^ gridExponent x) ≤ 2 ^ 53 := by
  have hlog : x < 2 ^ (Int.log 2 x + 1) := by
    exact_mod_cast Int.lt_zpow_succ_log_self (b := 2) (by norm_num) x
  have hexponent : Int.log 2 x + 1 ≤ 53 + gridExponent x := by
    unfold gridExponent
    omega
  have hscaled : x / 2 ^ gridExponent x ≤ ((2 ^ 53 : Nat) : ℚ) := by
    rw [div_le_iff₀ (by positivity)]
    calc x ≤ 2 ^ (Int.log 2 x + 1) := hlog.le
      _ ≤ 2 ^ (53 + gridExponent x) := zpow_le_zpow_right₀ (by norm_num) hexponent
      _ = ((2 ^ 53 : Nat) : ℚ) * 2 ^ gridExponent x := by
        rw [zpow_add₀ two_ne_zero]
        norm_num
  have hle := roundRat_le_roundRat (by positivity) hscaled
  rw [roundRat_natCast] at hle
  exact_mod_cast hle

/-- Above the bottom of the range the scaled number has all fifty-three bits. -/
theorem le_roundRat_scaled (hx : 0 < x) (h : -1074 < gridExponent x) :
    2 ^ 52 ≤ roundRat (x / 2 ^ gridExponent x) := by
  have hlog : (2 : ℚ) ^ Int.log 2 x ≤ x := by
    exact_mod_cast Int.zpow_log_le_self (b := 2) (by norm_num) hx
  have hexponent : 52 + gridExponent x = Int.log 2 x := by
    unfold gridExponent at h ⊢
    omega
  have hscaled : ((2 ^ 52 : Nat) : ℚ) ≤ x / 2 ^ gridExponent x := by
    rw [le_div_iff₀ (by positivity)]
    calc ((2 ^ 52 : Nat) : ℚ) * 2 ^ gridExponent x = 2 ^ (52 + gridExponent x) := by
          rw [zpow_add₀ two_ne_zero]
          norm_num
      _ = 2 ^ Int.log 2 x := by rw [hexponent]
      _ ≤ x := hlog
  have hle := roundRat_le_roundRat (by positivity) hscaled
  rw [roundRat_natCast] at hle
  exact_mod_cast hle

theorem magnitude_nonneg (hx : 0 < x) : 0 ≤ magnitude x := by
  have hround := roundRat_scaled_nonneg hx
  have hleast := neg_le_gridExponent x
  unfold magnitude
  omega

private theorem magnitude_le_magnitude (hx : 0 < x) (h : x ≤ y) : magnitude x ≤ magnitude y := by
  have hy : 0 < y := hx.trans_le h
  have hexponent := gridExponent_le_gridExponent hx h
  rcases hexponent.eq_or_lt with heq | hlt
  · have hround : roundRat (x / 2 ^ gridExponent x) ≤ roundRat (y / 2 ^ gridExponent x) :=
      roundRat_le_roundRat (by positivity) (by gcongr)
    unfold magnitude
    rw [← heq]
    omega
  -- The smaller number may be rounded up to the next power of two, but the greater one has a
  -- leading bit, and its exponent counts for no less.
  · have hleast := neg_le_gridExponent x
    have hxround := roundRat_scaled_le hx
    have hyround := le_roundRat_scaled hy (hleast.trans_lt hlt)
    unfold magnitude
    omega

end Grid

section Fields

variable {m n : Nat}

theorem toNat_bits_ofFields (h : m ≤ 2047 * 2 ^ 52) : (ofFields false m).bits.toNat = m := by
  simp only [ofFields, Bool.false_eq_true, if_false, Nat.add_zero]
  have hsize : m < UInt64.size := lt_of_le_of_lt h (by decide)
  exact UInt64.toNat_ofNat_of_lt' hsize

theorem isNegative_ofFields (h : m ≤ 2047 * 2 ^ 52) : (ofFields false m).isNegative = false := by
  rw [isNegative, toNat_bits_ofFields h, twoTo_eq, decide_eq_false_iff_not]
  omega

theorem exponentField_ofFields (h : m ≤ 2047 * 2 ^ 52) :
    (ofFields false m).exponentField = m / 2 ^ 52 := by
  rw [exponentField, toNat_bits_ofFields h, twoTo_eq, twoTo_eq]
  omega

theorem fraction_ofFields (h : m ≤ 2047 * 2 ^ 52) :
    (ofFields false m).fraction = m % 2 ^ 52 := by
  rw [fraction, toNat_bits_ofFields h, twoTo_eq]

theorem isNaN_ofFields (h : m ≤ 2047 * 2 ^ 52) : (ofFields false m).isNaN = false := by
  rw [isNaN, exponentField_ofFields h, fraction_ofFields h]
  by_contra hnan
  simp only [Bool.not_eq_false, Bool.and_eq_true, beq_iff_eq, bne_iff_ne, ne_eq] at hnan
  omega

private theorem twoPow_eq (e : Int) : twoPow e = 2 ^ e := by
  unfold twoPow
  split
  · next hneg =>
    obtain ⟨n, rfl⟩ : ∃ n : Nat, e = -n := ⟨e.natAbs, by omega⟩
    rw [Int.natAbs_neg, Int.natAbs_natCast, Rat.mkRat_eq_div, zpow_neg, zpow_natCast, twoTo_eq]
    simp
  · next hpos =>
    obtain ⟨n, rfl⟩ : ∃ n : Nat, e = n := ⟨e.natAbs, by omega⟩
    rw [Int.natAbs_natCast, zpow_natCast, twoTo_eq]
    norm_cast

theorem toRat_ofFields (h : m ≤ 2047 * 2 ^ 52) :
    (ofFields false m).toRat
      = ((if m / 2 ^ 52 = 0 then m % 2 ^ 52 else 2 ^ 52 + m % 2 ^ 52 : Nat) : ℚ)
        * 2 ^ (((max 1 (m / 2 ^ 52) : Nat) : Int) - 1075) := by
  rw [toRat, isNegative_ofFields h, significand, exponent, exponentField_ofFields h,
    fraction_ofFields h, twoPow_eq, twoTo_eq]
  simp only [Bool.false_eq_true, if_false, Int.cast_natCast]

private theorem toRat_ofFields_nonneg (h : m ≤ 2047 * 2 ^ 52) : 0 ≤ (ofFields false m).toRat := by
  rw [toRat_ofFields h]
  positivity

private theorem toRat_ofFields_le (h : m ≤ n) (hn : n ≤ 2047 * 2 ^ 52) :
    (ofFields false m).toRat ≤ (ofFields false n).toRat := by
  rw [toRat_ofFields (h.trans hn), toRat_ofFields hn]
  rcases (Nat.div_le_div_right (c := 2 ^ 52) h).eq_or_lt with heq | hlt
  · have hfraction : m % 2 ^ 52 ≤ n % 2 ^ 52 := by omega
    rw [heq]
    gcongr
    split <;> omega
  · rw [if_neg (by omega : n / 2 ^ 52 ≠ 0), max_eq_right (by omega : 1 ≤ n / 2 ^ 52)]
    rcases Nat.eq_zero_or_pos (m / 2 ^ 52) with hzero | hpos
    · rw [if_pos hzero, hzero]
      gcongr
      · omega
      · norm_num
      · omega
    -- However great the fraction, it stays below the next power of two.
    · rw [if_neg hpos.ne', max_eq_right hpos]
      have hsignificand : ((2 ^ 52 + m % 2 ^ 52 : Nat) : ℚ) ≤ 2 ^ 52 * 2 := by
        have hfraction : 2 ^ 52 + m % 2 ^ 52 ≤ 2 ^ 52 * 2 := by omega
        exact_mod_cast hfraction
      calc ((2 ^ 52 + m % 2 ^ 52 : Nat) : ℚ) * 2 ^ (((m / 2 ^ 52 : Nat) : Int) - 1075)
          ≤ 2 ^ 52 * 2 * 2 ^ (((m / 2 ^ 52 : Nat) : Int) - 1075) := by gcongr
        _ = 2 ^ 52 * 2 ^ (((m / 2 ^ 52 : Nat) : Int) - 1075 + 1) := by
          rw [zpow_add₀ two_ne_zero]
          ring
        _ ≤ ((2 ^ 52 + n % 2 ^ 52 : Nat) : ℚ) * 2 ^ (((n / 2 ^ 52 : Nat) : Int) - 1075) := by
          have hleading : ((2 ^ 52 : Nat) : ℚ) ≤ ((2 ^ 52 + n % 2 ^ 52 : Nat) : ℚ) := by
            exact_mod_cast Nat.le_add_right _ _
          gcongr
          · exact_mod_cast hleading
          · norm_num
          · omega

end Fields

/-- Two numbers, neither of them negative, the first with the smaller bits; the second may be
infinite. -/
def AtMost (x y : Binary64) : Prop :=
  ∃ m n : Nat, x = ofFields false m ∧ y = ofFields false n ∧ m ≤ n ∧ n ≤ 2047 * 2 ^ 52

variable {x y : Binary64}

theorem AtMost.toRat_le (h : x.AtMost y) : x.toRat ≤ y.toRat := by
  obtain ⟨m, n, rfl, rfl, hmn, hn⟩ := h
  exact toRat_ofFields_le hmn hn

theorem AtMost.toRat_nonneg (h : x.AtMost y) : 0 ≤ x.toRat := by
  obtain ⟨m, n, rfl, rfl, hmn, hn⟩ := h
  exact toRat_ofFields_nonneg (hmn.trans hn)

theorem AtMost.isNegative_eq_false (h : x.AtMost y) :
    x.isNegative = false ∧ y.isNegative = false := by
  obtain ⟨m, n, rfl, rfl, hmn, hn⟩ := h
  exact ⟨isNegative_ofFields (hmn.trans hn), isNegative_ofFields hn⟩

theorem AtMost.isFinite (h : x.AtMost y) (hy : y.isFinite = true) : x.isFinite = true := by
  obtain ⟨m, n, rfl, rfl, hmn, hn⟩ := h
  simp only [Binary64.isFinite, exponentField_ofFields (hmn.trans hn), exponentField_ofFields hn,
    decide_eq_true_eq] at hy ⊢
  omega

private theorem AtMost.isNaN_eq_false (h : x.AtMost y) : x.isNaN = false ∧ y.isNaN = false := by
  obtain ⟨m, n, rfl, rfl, hmn, hn⟩ := h
  exact ⟨isNaN_ofFields (hmn.trans hn), isNaN_ofFields hn⟩

theorem AtMost.le (h : x.AtMost y) : x.le y = true := by
  have hrat := h.toRat_le
  obtain ⟨hxsign, hysign⟩ := h.isNegative_eq_false
  obtain ⟨hxnan, hynan⟩ := h.isNaN_eq_false
  simp only [Binary64.le, lt, hxnan, hynan, hxsign, hysign]
  cases hy : y.isFinite with
  | true => simpa [h.isFinite hy] using hrat
  | false => simp

theorem exists_ofRatio_eq (hb : 0 < b) :
    ofRatio false a b = ofFields false
      (if a = 0 then 0 else min (2047 * 2 ^ 52) (magnitude ((a : ℚ) / b)).natAbs) := by
  rcases Nat.eq_zero_or_pos a with rfl | ha
  · rfl
  · have hmagnitude := magnitude_nonneg (x := (a : ℚ) / b) (by positivity)
    rw [ofRatio_eq false ha hb, if_neg ha.ne']
    split
    · rw [min_eq_left (by omega), infinity, twoTo_eq]
    · rw [min_eq_right (by omega)]

theorem ofRatio_atMost (hb : 0 < b) (hd : 0 < d) (h : a * d ≤ c * b) :
    (ofRatio false a b).AtMost (ofRatio false c d) := by
  refine ⟨_, _, exists_ofRatio_eq hb, exists_ofRatio_eq hd, ?_, ?_⟩
  · rcases Nat.eq_zero_or_pos a with rfl | ha
    · simp
    · have hc : 0 < c := Nat.pos_of_mul_pos_right ((Nat.mul_pos ha hd).trans_le h)
      have hquotient : (a : ℚ) / b ≤ c / d := by
        rw [div_le_div_iff₀ (by positivity) (by positivity)]
        exact_mod_cast h
      have hle := magnitude_le_magnitude (by positivity) hquotient
      have hnonneg := magnitude_nonneg (x := (a : ℚ) / b) (by positivity)
      rw [if_neg ha.ne', if_neg hc.ne']
      omega
  · split <;> omega

theorem ofRat_atMost {r s : ℚ} (hr : 0 ≤ r) (h : r ≤ s) : (ofRat r).AtMost (ofRat s) := by
  have hs := hr.trans h
  rw [ofRat, ofRat, decide_eq_false (by simpa using hr), decide_eq_false (by simpa using hs)]
  refine ofRatio_atMost r.den_pos s.den_pos ?_
  have hcross : (r.num.natAbs : ℚ) * s.den ≤ s.num.natAbs * r.den := by
    rw [natAbs_num hr, natAbs_num hs, ← Rat.mul_den_eq_num, ← Rat.mul_den_eq_num,
      mul_right_comm s]
    gcongr
  exact_mod_cast hcross

end Binary64

end SiteTemplate
