import SiteTemplate.Json.Reader
import SiteTemplate.Json.Writer
import SiteTemplate.Proofs.RoundingOrder
import SiteTemplate.Proofs.Scanning

/-!
# Numbers in JSON text

A number is written as a sign, a whole part and, in double precision, decimal places or an exponent.
Before a text that does not go on with the number, each of these forms is read as what it writes.
-/

namespace SiteTemplate

open Text

namespace Text

variable {c : Char} {n : Nat}

theorem isAsciiDigit_of_mem_toDigits (h : c ∈ Nat.toDigits 10 n) : isAsciiDigit c = true := by
  have hdigit := Nat.isDigit_of_mem_toDigits (by decide) (by decide) h
  simpa [isAsciiDigit, Char.isDigit, Char.le_def] using hdigit

/-- The digits of a positive number do not begin with a zero. -/
theorem head?_toDigits (h : 0 < n) : (Nat.toDigits 10 n).head? ≠ some '0' := by
  induction n using Nat.strong_induction_on with
  | _ n ih =>
    rw [Nat.toDigits_eq_if (by decide)]
    split
    · simpa using h.ne'
    · next hle =>
      rw [List.head?_append_of_ne_nil _ Nat.toDigits_ne_nil]
      exact ih (n / 10) (by omega) (by omega)

end Text

namespace Numeral

theorem natural_toDigits (n : Nat) : natural (Nat.toDigits 10 n) = n :=
  Nat.ofDigitChars_ten_toDigits

theorem natural_append (ds es : List Char) :
    natural (ds ++ es) = natural ds * 10 ^ es.length + natural es := by
  have happend : natural (ds ++ es) = Nat.ofDigitChars 10 es (natural ds) :=
    Nat.ofDigitChars_append 0
  rw [happend, Nat.ofDigitChars_eq_ofDigitChars_zero, Nat.mul_comm]
  rfl

theorem natural_replicate_zero (n : Nat) : natural (List.replicate n '0') = 0 :=
  Nat.ofDigitChars_replicate_zero

end Numeral

namespace Json

/-- The digits of a whole part: a zero alone, or digits that do not begin with one. -/
def IsWhole (ds : List Char) : Prop :=
  ds = ['0'] ∨ ds ≠ [] ∧ ds.head? ≠ some '0' ∧ ∀ c ∈ ds, isAsciiDigit c = true

/-- A character with which a number goes on. -/
def goesOn (c : Char) : Bool := isAsciiDigit c || c == '.' || c == 'e' || c == 'E'

/-- A text before which a number ends. -/
def EndsNumber (rest : List Char) : Prop := rest.head?.any goesOn = false

def signText (negative : Bool) : List Char := if negative then ['-'] else []

variable {negative : Bool} {whole places digits rest : List Char}

private theorem isWhole_toDigits (n : Nat) : IsWhole (Nat.toDigits 10 n) := by
  rcases Nat.eq_zero_or_pos n with rfl | hpos
  · exact .inl (Nat.toDigits_zero 10)
  · exact .inr ⟨Nat.toDigits_ne_nil, head?_toDigits hpos, fun c => isAsciiDigit_of_mem_toDigits⟩

theorem IsWhole.isAsciiDigit (h : IsWhole whole) : ∀ c ∈ whole, isAsciiDigit c = true := by
  rcases h with rfl | ⟨-, -, hdigits⟩
  · exact List.forall_mem_singleton.2 rfl
  · exact hdigits

private theorem endsNumber_cons_iff {c : Char} : EndsNumber (c :: rest) ↔
    isAsciiDigit c = false ∧ c ≠ '.' ∧ (c == 'e') = false ∧ (c == 'E') = false := by
  simp [EndsNumber, goesOn, and_assoc]

theorem EndsNumber.digit (h : EndsNumber rest) : rest.head?.any isAsciiDigit = false := by
  cases rest with
  | nil => rfl
  | cons c rest => exact (endsNumber_cons_iff.1 h).1

theorem EndsNumber.readFraction (h : EndsNumber rest) : readFraction rest = none := by
  cases rest with
  | nil => rfl
  | cons c rest =>
    obtain ⟨-, hpoint, -⟩ := endsNumber_cons_iff.1 h
    rw [Json.readFraction.eq_2]
    exact fun d rest' hcons => hpoint (List.cons.inj hcons).1

theorem EndsNumber.readExponent (h : EndsNumber rest) : readExponent rest = none := by
  cases rest with
  | nil => rfl
  | cons c rest =>
    obtain ⟨-, -, hlower, hupper⟩ := endsNumber_cons_iff.1 h
    rw [Json.readExponent, hlower, hupper]
    rfl

theorem splitMinus_signText (h : IsWhole whole) (rest : List Char) :
    splitMinus (signText negative ++ (whole ++ rest)) = (negative, whole ++ rest) := by
  cases negative with
  | true => rfl
  | false =>
    have hhead : ∀ cs, whole ++ rest ≠ '-' :: cs := by
      intro cs hcs
      cases whole with
      | nil => rcases h with h | ⟨h, -⟩ <;> simp at h
      | cons c whole =>
        obtain ⟨rfl, -⟩ := List.cons.inj hcs
        exact absurd (h.isAsciiDigit '-' List.mem_cons_self) (by decide)
    exact splitMinus.eq_2 _ hhead

theorem readWhole_append (h : IsWhole whole) (hrest : rest.head?.any isAsciiDigit = false) :
    readWhole (whole ++ rest) = some (whole, rest) := by
  rcases h with rfl | ⟨hne, hhead, hdigits⟩
  · rfl
  · cases whole with
    | nil => exact absurd rfl hne
    | cons c whole =>
      obtain ⟨hc, hwhole⟩ := List.forall_mem_cons.1 hdigits
      have hzero : c ≠ '0' := by simpa using hhead
      rw [List.cons_append, readWhole.eq_2 _ _ (by simpa using hzero), if_pos hc,
        takeWhile_append_of_stop hwhole hrest, dropWhile_append_of_stop hwhole hrest]

theorem readFraction_append (hne : places ≠ []) (hplaces : ∀ c ∈ places, isAsciiDigit c = true)
    (hrest : rest.head?.any isAsciiDigit = false) :
    readFraction ('.' :: (places ++ rest)) = some (places, rest) := by
  cases places with
  | nil => exact absurd rfl hne
  | cons c places =>
    obtain ⟨hc, hplaces⟩ := List.forall_mem_cons.1 hplaces
    rw [List.cons_append, readFraction, if_pos hc, takeWhile_append_of_stop hplaces hrest,
      dropWhile_append_of_stop hplaces hrest]

/-- The sign of an exponent. -/
def IsExponentSign (sign : List Char) (below : Bool) : Prop :=
  sign = ['-'] ∧ below = true ∨ (sign = ['+'] ∨ sign = []) ∧ below = false

variable {sign : List Char} {below : Bool}

private theorem splitSign_append (hsign : IsExponentSign sign below) (hne : digits ≠ [])
    (hdigits : ∀ c ∈ digits, isAsciiDigit c = true) (rest : List Char) :
    Numeral.splitSign (sign ++ (digits ++ rest)) = (below, digits ++ rest) := by
  rcases hsign with ⟨rfl, rfl⟩ | ⟨rfl | rfl, rfl⟩
  · rfl
  · rfl
  · cases digits with
    | nil => exact absurd rfl hne
    | cons c digits =>
      have hc := hdigits c List.mem_cons_self
      have hminus : c ≠ '-' := by rintro rfl; exact absurd hc (by decide)
      have hplus : c ≠ '+' := by rintro rfl; exact absurd hc (by decide)
      rw [List.nil_append, List.cons_append, Numeral.splitSign.eq_3]
      · intro cs hcs
        exact hminus (List.cons.inj hcs).1
      · intro cs hcs
        exact hplus (List.cons.inj hcs).1

theorem readExponent_append (hsign : IsExponentSign sign below) (hne : digits ≠ [])
    (hdigits : ∀ c ∈ digits, isAsciiDigit c = true) (hrest : rest.head?.any isAsciiDigit = false) :
    readExponent ('e' :: (sign ++ (digits ++ rest)))
      = some (if below then -(Numeral.natural digits : Int) else Numeral.natural digits, rest) := by
  simp [readExponent, splitSign_append hsign hne hdigits,
    takeWhile_append_of_stop hdigits hrest, dropWhile_append_of_stop hdigits hrest, hne]

private theorem readNumber_whole (hwhole : IsWhole whole) (hrest : EndsNumber rest) :
    readNumber (signText negative ++ (whole ++ rest))
      = (wholeNumber negative whole).map (·, rest) := by
  simp [readNumber, splitMinus_signText hwhole, readWhole_append hwhole hrest.digit,
    hrest.readFraction, hrest.readExponent]

private theorem writeInt_eq (n : Int) :
    writeInt n = signText (decide (n < 0)) ++ Nat.toDigits 10 n.natAbs := by
  by_cases h : n < 0 <;> simp [writeInt, signText, h]

/-- A whole number is read back, unless it has too many digits. -/
theorem readNumber_writeInt (n : Int) (hrest : EndsNumber rest) :
    readNumber (writeInt n ++ rest)
      = if n.natAbs < tenTo mostDigits then .ok (.int n, rest)
        else .error (.overlong (Nat.toDigits 10 n.natAbs).length) := by
  have hlength : (Nat.toDigits 10 n.natAbs).length ≤ mostDigits ↔ n.natAbs < tenTo mostDigits := by
    rw [tenTo_eq]
    exact Nat.length_toDigits_le_iff (by decide) (by decide)
  have hvalue : (if decide (n < 0) = true then -(n.natAbs : Int) else n.natAbs) = n := by
    simp only [decide_eq_true_eq]
    split <;> omega
  rw [writeInt_eq, List.append_assoc, readNumber_whole (isWhole_toDigits _) hrest, wholeNumber,
    Numeral.natural_toDigits]
  by_cases h : n.natAbs < tenTo mostDigits
  · rw [if_pos h, if_pos (hlength.2 h)]
    simp only [hvalue]
    rfl
  · rw [if_neg h, if_neg (mt hlength.1 h)]
    rfl

theorem readNumber_places (hwhole : IsWhole whole) (hne : places ≠ [])
    (hplaces : ∀ c ∈ places, isAsciiDigit c = true) (hrest : EndsNumber rest) :
    readNumber (signText negative ++ (whole ++ '.' :: (places ++ rest)))
      = .ok (.float (.ofDecimal negative (Numeral.natural (whole ++ places)) (-places.length)),
        rest) := by
  have hpoint : ('.' :: (places ++ rest)).head?.any isAsciiDigit = false := rfl
  simp [readNumber, splitMinus_signText hwhole, readWhole_append hwhole hpoint,
    readFraction_append hne hplaces hrest.digit, hrest.readExponent]

theorem readNumber_exponent (hwhole : IsWhole whole) (hsign : IsExponentSign sign below)
    (hne : digits ≠ []) (hdigits : ∀ c ∈ digits, isAsciiDigit c = true) (hrest : EndsNumber rest) :
    readNumber (signText negative ++ (whole ++ 'e' :: (sign ++ (digits ++ rest))))
      = .ok (.float (.ofDecimal negative (Numeral.natural whole)
        (if below then -(Numeral.natural digits : Int) else Numeral.natural digits)), rest) := by
  have hmark : ('e' :: (sign ++ (digits ++ rest))).head?.any isAsciiDigit = false := rfl
  have hfraction : readFraction ('e' :: (sign ++ (digits ++ rest))) = none := rfl
  simp [readNumber, splitMinus_signText hwhole, readWhole_append hwhole hmark, hfraction,
    readExponent_append hsign hne hdigits hrest.digit]

theorem readNumber_places_exponent (hwhole : IsWhole whole) (hplaces_ne : places ≠ [])
    (hplaces : ∀ c ∈ places, isAsciiDigit c = true) (hsign : IsExponentSign sign below)
    (hne : digits ≠ []) (hdigits : ∀ c ∈ digits, isAsciiDigit c = true) (hrest : EndsNumber rest) :
    readNumber
        (signText negative ++ (whole ++ '.' :: (places ++ 'e' :: (sign ++ (digits ++ rest)))))
      = .ok (.float (.ofDecimal negative (Numeral.natural (whole ++ places))
        ((if below then -(Numeral.natural digits : Int) else Numeral.natural digits)
          - places.length)), rest) := by
  have hpoint : ('.' :: (places ++ 'e' :: (sign ++ (digits ++ rest)))).head?.any isAsciiDigit
      = false := rfl
  have hmark : ('e' :: (sign ++ (digits ++ rest))).head?.any isAsciiDigit = false := rfl
  simp [readNumber, splitMinus_signText hwhole, readWhole_append hwhole hpoint,
    readFraction_append hplaces_ne hplaces hmark,
    readExponent_append hsign hne hdigits hrest.digit]

end Json

end SiteTemplate
