import SiteTemplate.Proofs.NumberText
import SiteTemplate.Proofs.ShortestDecimal

/-!
# The text of a double-precision number is read back

However the digits of the shortest decimal are laid out, as a whole number with a zero after the
point, around the point, after it, or with an exponent, they are read as a decimal of the same
value. That value rounds to the number, so every finite number is read back from its text.
-/

namespace SiteTemplate.Binary64

open Text Json

variable {n : Nat} {value : ℚ} {cs whole places sign digits rest : List Char} {below : Bool}

/-- Whether a text, with or without a sign before it, is read as a decimal of a given value. -/
def Writes (cs : List Char) (value : ℚ) : Prop :=
  ∀ negative rest, EndsNumber rest → ∃ (d : Nat) (k : Int), (d : ℚ) * 10 ^ k = value
    ∧ readNumber (signText negative ++ (cs ++ rest)) = .ok (.float (ofDecimal negative d k), rest)

theorem writes_places (hwhole : IsWhole whole) (hne : places ≠ [])
    (hplaces : ∀ c ∈ places, isAsciiDigit c = true)
    (hvalue : (Numeral.natural (whole ++ places) : ℚ) * 10 ^ (-places.length : Int) = value) :
    Writes (whole ++ '.' :: places) value := by
  intro negative rest hrest
  refine ⟨_, _, hvalue, ?_⟩
  rw [List.append_assoc, List.cons_append]
  exact readNumber_places hwhole hne hplaces hrest

private theorem writes_exponent (hwhole : IsWhole whole) (hsign : IsExponentSign sign below)
    (hne : digits ≠ []) (hdigits : ∀ c ∈ digits, isAsciiDigit c = true)
    (hvalue : (Numeral.natural whole : ℚ)
      * 10 ^ (if below then -(Numeral.natural digits : Int) else Numeral.natural digits) = value) :
    Writes (whole ++ 'e' :: (sign ++ digits)) value := by
  intro negative rest hrest
  refine ⟨_, _, hvalue, ?_⟩
  rw [List.append_assoc, List.cons_append, List.append_assoc]
  exact readNumber_exponent hwhole hsign hne hdigits hrest

private theorem writes_places_exponent (hwhole : IsWhole whole) (hplaces_ne : places ≠ [])
    (hplaces : ∀ c ∈ places, isAsciiDigit c = true) (hsign : IsExponentSign sign below)
    (hne : digits ≠ []) (hdigits : ∀ c ∈ digits, isAsciiDigit c = true)
    (hvalue : (Numeral.natural (whole ++ places) : ℚ)
      * 10 ^ ((if below then -(Numeral.natural digits : Int) else Numeral.natural digits)
        - places.length) = value) :
    Writes (whole ++ '.' :: (places ++ 'e' :: (sign ++ digits))) value := by
  intro negative rest hrest
  refine ⟨_, _, hvalue, ?_⟩
  simp only [List.append_assoc, List.cons_append]
  exact readNumber_places_exponent hwhole hplaces_ne hplaces hsign hne hdigits hrest

theorem forall_isAsciiDigit_toDigits (n : Nat) :
    ∀ c ∈ Nat.toDigits 10 n, isAsciiDigit c = true :=
  fun _ => isAsciiDigit_of_mem_toDigits

theorem forall_isAsciiDigit_replicate (n : Nat) :
    ∀ c ∈ List.replicate n '0', isAsciiDigit c = true := by
  intro c hc
  rw [List.eq_of_mem_replicate hc]
  rfl

theorem natural_replicate_append (n : Nat) (ds : List Char) :
    Numeral.natural (List.replicate n '0' ++ ds) = Numeral.natural ds := by
  rw [Numeral.natural_append, Numeral.natural_replicate_zero, Nat.zero_mul, Nat.zero_add]

theorem isWhole_of_head? (hne : cs ≠ []) (hhead : cs.head? = (Nat.toDigits 10 n).head?)
    (hdigits : ∀ c ∈ cs, isAsciiDigit c = true) (hn : 0 < n) : IsWhole cs :=
  .inr ⟨hne, hhead ▸ head?_toDigits hn, hdigits⟩

private theorem writes_before_point (hn : 0 < n) (zeros : Nat) :
    Writes (Nat.toDigits 10 n ++ List.replicate zeros '0' ++ ['.', '0'])
      (n * 10 ^ (zeros : Int)) := by
  have hwhole : IsWhole (Nat.toDigits 10 n ++ List.replicate zeros '0') := by
    refine isWhole_of_head? ?_ (List.head?_append_of_ne_nil _ Nat.toDigits_ne_nil) ?_ hn
    · exact List.append_ne_nil_of_left_ne_nil Nat.toDigits_ne_nil _
    · rw [List.forall_mem_append]
      exact ⟨forall_isAsciiDigit_toDigits n, forall_isAsciiDigit_replicate zeros⟩
  refine writes_places hwhole (List.cons_ne_nil _ _) (List.forall_mem_singleton.2 rfl) ?_
  have hzero : Numeral.natural ['0'] = 0 := rfl
  rw [Numeral.natural_append, Numeral.natural_append, Numeral.natural_toDigits,
    Numeral.natural_replicate_zero, hzero]
  simp

private theorem writes_around_point (hn : 0 < n) (point : Nat) (hpoint : 0 < point)
    (hlength : point < (Nat.toDigits 10 n).length) :
    Writes ((Nat.toDigits 10 n).take point ++ '.' :: (Nat.toDigits 10 n).drop point)
      (n * 10 ^ ((point : Int) - (Nat.toDigits 10 n).length)) := by
  have hwhole : IsWhole ((Nat.toDigits 10 n).take point) := by
    refine isWhole_of_head? ?_ ?_ ?_ hn
    · simp [Nat.toDigits_ne_nil, hpoint.ne']
    · rw [List.head?_take, if_neg hpoint.ne']
    · exact fun c hc => forall_isAsciiDigit_toDigits n c (List.mem_of_mem_take hc)
  refine writes_places hwhole ?_ ?_ ?_
  · simpa using hlength
  · exact fun c hc => forall_isAsciiDigit_toDigits n c (List.mem_of_mem_drop hc)
  · rw [List.take_append_drop, Numeral.natural_toDigits, List.length_drop]
    congr 2
    omega

private theorem writes_after_point (n zeros : Nat) :
    Writes ('0' :: '.' :: (List.replicate zeros '0' ++ Nat.toDigits 10 n))
      (n * 10 ^ (-(zeros : Int) - (Nat.toDigits 10 n).length)) := by
  have hwhole : IsWhole ['0'] := .inl rfl
  refine writes_places hwhole ?_ ?_ ?_
  · exact List.append_ne_nil_of_right_ne_nil _ Nat.toDigits_ne_nil
  · rw [List.forall_mem_append]
    exact ⟨forall_isAsciiDigit_replicate zeros, forall_isAsciiDigit_toDigits n⟩
  · have hzeros : ['0'] ++ (List.replicate zeros '0' ++ Nat.toDigits 10 n)
        = List.replicate (zeros + 1) '0' ++ Nat.toDigits 10 n := by simp [List.replicate_succ]
    rw [hzeros, natural_replicate_append, Numeral.natural_toDigits, List.length_append,
      List.length_replicate]
    congr 2
    omega

theorem natural_leftpad (width n : Nat) :
    Numeral.natural ((Nat.toDigits 10 n).leftpad width '0') = n := by
  rw [List.leftpad, natural_replicate_append, Numeral.natural_toDigits]

theorem writes_scientific (hn : 0 < n) (hsign : IsExponentSign sign below) (width e : Nat) :
    Writes ((match Nat.toDigits 10 n with
        | [] => []
        | [c] => [c]
        | c :: cs => c :: '.' :: cs) ++ 'e' :: (sign ++ (Nat.toDigits 10 e).leftpad width '0'))
      (n * 10 ^ ((if below then -(e : Int) else e) + 1 - (Nat.toDigits 10 n).length)) := by
  have hall := forall_isAsciiDigit_toDigits n
  have hvalue := Numeral.natural_toDigits n
  have hhead := head?_toDigits hn
  have hdigits : ∀ c ∈ (Nat.toDigits 10 e).leftpad width '0', isAsciiDigit c = true := by
    rw [List.leftpad, List.forall_mem_append]
    exact ⟨forall_isAsciiDigit_replicate _, forall_isAsciiDigit_toDigits e⟩
  have hne : (Nat.toDigits 10 e).leftpad width '0' ≠ [] :=
    List.append_ne_nil_of_right_ne_nil _ Nat.toDigits_ne_nil
  cases htext : Nat.toDigits 10 n with
  | nil => exact absurd htext Nat.toDigits_ne_nil
  | cons c cs =>
    rw [htext] at hall hvalue hhead
    obtain ⟨hc, hcs⟩ := List.forall_mem_cons.1 hall
    have hwhole : IsWhole [c] := .inr ⟨List.cons_ne_nil _ _, hhead, by simpa using hc⟩
    cases cs with
    | nil =>
      refine writes_exponent hwhole hsign hne hdigits ?_
      rw [hvalue, natural_leftpad]
      simp
    | cons c' cs =>
      refine writes_places_exponent hwhole (List.cons_ne_nil _ _) hcs hsign hne hdigits ?_
      rw [natural_leftpad, List.singleton_append, hvalue]
      congr 2
      simp only [List.length_cons]
      omega

private theorem writes_layOut (l : Decimal.Layout) (hn : 0 < n) (k : Int) :
    Writes (layOut l ⟨n, k⟩) (n * 10 ^ k) := by
  have hlength := @Nat.length_toDigits_pos 10 n
  unfold layOut
  dsimp only
  split
  · split
    · next hk =>
      have hwrites := writes_before_point hn k.natAbs
      rwa [Int.natAbs_of_nonneg hk] at hwrites
    · next hk =>
      split
      · next hscientific =>
        generalize hpoint : ((Nat.toDigits 10 n).length + k - 1 + 1).natAbs = point
        have hwrites := writes_around_point hn point (by omega) (by omega)
        have hexponent : (point : Int) - (Nat.toDigits 10 n).length = k := by omega
        rwa [hexponent] at hwrites
      · next hscientific =>
        generalize hzeros : (-((Nat.toDigits 10 n).length + k - 1) - 1).natAbs = zeros
        have hwrites := writes_after_point n zeros
        have hexponent : -(zeros : Int) - (Nat.toDigits 10 n).length = k := by omega
        rwa [hexponent] at hwrites
  · generalize hscientific : ((Nat.toDigits 10 n).length + k - 1 : Int) = scientific
    rw [List.append_assoc, List.cons_append]
    rcases lt_or_ge scientific 0 with hbelow | habove
    · have hwrites := writes_scientific hn (.inl ⟨rfl, rfl⟩) l.exponentWidth scientific.natAbs
      have hexponent : (if true then -(scientific.natAbs : Int) else scientific.natAbs) + 1
          - (Nat.toDigits 10 n).length = k := by
        rw [if_pos rfl]
        omega
      rw [if_pos hbelow]
      rwa [hexponent] at hwrites
    · have hsign : IsExponentSign (if l.plusSign = true then ['+'] else []) false := by
        cases l.plusSign
        · exact .inr ⟨.inr rfl, rfl⟩
        · exact .inr ⟨.inl rfl, rfl⟩
      have hwrites := writes_scientific hn hsign l.exponentWidth scientific.natAbs
      have hexponent : (if false then -(scientific.natAbs : Int) else scientific.natAbs) + 1
          - (Nat.toDigits 10 n).length = k := by
        rw [if_neg Bool.false_ne_true]
        omega
      rw [if_neg habove.not_gt]
      rwa [hexponent] at hwrites

private theorem eq_ofFields_zero {x : Binary64} (hsig : x.significand = 0) :
    ofFields x.isNegative 0 = x := by
  have hfields : x.exponentField = 0 ∧ x.fraction = 0 := by
    rw [significand, twoTo_eq] at hsig
    split at hsig <;> omega
  have hbits := ofFields_bits x
  rwa [hfields.1, hfields.2] at hbits

theorem isNaN_of_isFinite {x : Binary64} (hfinite : x.isFinite = true) : x.isNaN = false := by
  have hfield : x.exponentField < 2047 := by simpa [isFinite] using hfinite
  simp [isNaN, hfield.ne]

/-- A finite number is read back from its text in every layout. -/
theorem readNumber_text (l : Decimal.Layout) {x : Binary64} (hfinite : x.isFinite = true)
    (hrest : EndsNumber rest) : readNumber (x.text l ++ rest) = .ok (.float x, rest) := by
  have hnan := isNaN_of_isFinite hfinite
  have htext : x.text l = signText x.isNegative
      ++ if x.significand = 0 then ['0', '.', '0'] else layOut l x.shortest := by
    simp only [text, hnan, hfinite, signText, Bool.not_false, Bool.and_true, Bool.not_true,
      Bool.false_eq_true, if_false]
    split <;> rfl
  rw [htext, List.append_assoc]
  by_cases hsig : x.significand = 0
  · rw [if_pos hsig]
    have hwrites : Writes ['0', '.', '0'] 0 := by
      have hwhole : IsWhole ['0'] := .inl rfl
      refine writes_places hwhole (List.cons_ne_nil _ _) (List.forall_mem_singleton.2 rfl) ?_
      have hzero : Numeral.natural ['0', '0'] = 0 := rfl
      simp [hzero]
    obtain ⟨d, k, hvalue, hread⟩ := hwrites x.isNegative rest hrest
    have hpow : (10 : ℚ) ^ k ≠ 0 := by positivity
    have hd : d = 0 := by simpa [hpow] using hvalue
    have hzero : ofDecimal x.isNegative 0 k = x := by
      rw [ofDecimal, decide_eq_true rfl, Bool.true_or, if_pos rfl, eq_ofFields_zero hsig]
    rw [hread, hd, hzero]
  · rw [if_neg hsig]
    obtain ⟨d, k, hvalue, hread⟩ :=
      writes_layOut l (roundsTo_shortest hfinite (by omega)).1 x.shortest.exponent
        x.isNegative rest hrest
    rw [hread, ofDecimal_of_eq_shortest hfinite (by omega) hvalue]

end SiteTemplate.Binary64
