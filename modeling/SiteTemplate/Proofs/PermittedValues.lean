import SiteTemplate.Proofs.JsonText
import SiteTemplate.Proofs.Traversal
import SiteTemplate.Slot.Check

/-!
# What types and validators ask of a value

`FieldType.Holds` and `Validator.Permits` say which values have a type and which obey a validator,
whatever engine searches for patterns. The checks agree with them: a check that is possible finds no
violation exactly in the values that are permitted, and what it finds can be written if the numbers
of the validator's limit can.
-/

namespace SiteTemplate

open Text

/-- A value has a type. -/
def FieldType.Holds (t : FieldType) (value : Json) : Prop :=
  match t with
  | .text | .richtext | .image => ∃ s, value = .str s
  | .number => (∃ n, value = .int n) ∨ ∃ x, value = .float x
  | .boolean => ∃ b, value = .bool b
  | .email => ∃ s, value = .str s ∧ '@' ∈ s.toList
  | .url => ∃ s, value = .str s ∧
      ("http://".toList <+: s.toList ∨ "https://".toList <+: s.toList)
  | .list => ∃ items, value = .arr items
  | .object => ∃ members, value = .obj members

theorem FieldType.admits_iff {t : FieldType} {value : Json} :
    t.admits value = true ↔ value = .null ∨ t.Holds value := by
  cases t <;> cases value <;>
    simp [admits, accepts, Holds, Json.isNull, Json.isNumber, startsWith,
      List.isPrefixOf_iff_prefix]

namespace Validator

/-- The bound of a range under a key; a range need not have it. -/
def bound? (range : Members) (key : String) : Option Quantity :=
  (Entries.get? range key).bind Json.quantity?

/-- A value obeys a validator; values of other kinds than the validator speaks of do. -/
def Permits (engine : PatternEngine) (v : Validator) (value : Json) : Prop :=
  match v.kind with
  | .maxLength => ∀ s, value = .str s → ∀ n ∈ v.countLimit?, n.lt (.ofNat s.length) = false
  | .minLength => ∀ s, value = .str s → ∀ n ∈ v.countLimit?, (Quantity.ofNat s.length).lt n = false
  | .maxItems => ∀ items, value = .arr items →
      ∀ n ∈ v.countLimit?, n.lt (.ofNat items.length) = false
  | .minItems => ∀ items, value = .arr items →
      ∀ n ∈ v.countLimit?, (Quantity.ofNat items.length).lt n = false
  | .pattern => ∀ s, value = .str s →
      ∃ pattern, v.limit.display? = some pattern ∧ engine pattern s = .found
  | .range => ∀ n range, value.isNumber = true → value.quantity? = some n → v.limit = .obj range →
      (∀ low ∈ bound? range "min", n.lt low = false) ∧
        ∀ high ∈ bound? range "max", high.lt n = false

/-- Every check by a validator is possible: the bounds of a range are numbers or absent, and the
search for a pattern finds or misses it in every text. -/
def IsPossible (engine : PatternEngine) (v : Validator) : Prop :=
  match v.kind with
  | .range => ∀ range, v.limit = .obj range → ∀ key ∈ ["min", "max"], ∀ bound,
      Entries.get? range key = some bound → bound.isNull = true ∨ bound.quantity?.isSome = true
  | .pattern => ∀ pattern s message, v.limit.display? = some pattern →
      engine pattern s ≠ .failed message
  | _ => True

/-- A check decides whether a value is permitted, and if its numbers fit, it ends with a violation
that can be written or with none. -/
structure Decides (r : Except ImpossibleCheck (Option Violation)) (permitted fit : Prop) :
    Prop where
  none_iff : r = .ok none ↔ permitted
  returns : fit → ∃ x, r = .ok x ∧ ∀ y ∈ x, y.isWritable = true

variable {engine : PatternEngine} {v : Validator} {value : Json}

private theorem decides_none (fit : Prop) {permitted : Prop} (h : permitted) :
    Decides (.ok none) permitted fit :=
  ⟨iff_of_true rfl h, fun _ => ⟨none, rfl, nofun⟩⟩

private theorem decides_ite {c : Bool} {violation : Violation} {permitted fit : Prop}
    (hpermitted : c = false ↔ permitted) (hwritable : fit → violation.isWritable = true) :
    Decides (.ok (if c then some violation else none)) permitted fit := by
  cases c with
  | true =>
    exact ⟨by simpa using hpermitted, fun hfit => ⟨_, rfl, by simpa using hwritable hfit⟩⟩
  | false => exact decides_none fit (hpermitted.1 rfl)

private theorem decides_above {count : Nat} {violation : Json → Violation}
    (hwritable : ∀ limit, (violation limit).isWritable = limit.fits) :
    Decides (.ok (v.above count violation)) (∀ n ∈ v.countLimit?, n.lt (.ofNat count) = false)
      (v.limit.fits = true) :=
  decides_ite (by cases v.countLimit? <;> simp) fun hfits => by rw [hwritable, hfits]

private theorem decides_below {count : Nat} {violation : Json → Violation}
    (hwritable : ∀ limit, (violation limit).isWritable = limit.fits) :
    Decides (.ok (v.below count violation))
      (∀ n ∈ v.countLimit?, (Quantity.ofNat count).lt n = false) (v.limit.fits = true) :=
  decides_ite (by cases v.countLimit? <;> simp) fun hfits => by rw [hwritable, hfits]

private theorem decides_pattern {limit : Json} (s : String)
    (h : ∀ pattern s message, limit.display? = some pattern → engine pattern s ≠ .failed message) :
    Decides (checkPattern engine limit s)
      (∃ pattern, limit.display? = some pattern ∧ engine pattern s = .found)
      (limit.fits = true) := by
  unfold checkPattern
  cases hpattern : limit.display? with
  | none =>
    have hfits : ¬ limit.fits = true := by simpa [Json.display?] using hpattern
    exact ⟨by simp, fun hfit => absurd hfit hfits⟩
  | some pattern =>
    dsimp only
    cases hsearch : engine pattern s with
    | failed message => exact absurd hsearch (h pattern s message hpattern)
    | found => exact ⟨by simp [hsearch], fun _ => ⟨none, rfl, nofun⟩⟩
    | missing => exact ⟨by simp [hsearch], fun _ => ⟨_, rfl, by simp [Violation.isWritable]⟩⟩
    | malformed message =>
      exact ⟨by simp [hsearch], fun _ => ⟨_, rfl, by simp [Violation.isWritable]⟩⟩

/-- A number can be compared with a bound that is a number or absent. -/
private theorem exists_compare (rel : Quantity → Bool) (e : ImpossibleCheck) {range : Members}
    {key : String} (h : ∀ bound, Entries.get? range key = some bound →
      bound.isNull = true ∨ bound.quantity?.isSome = true) :
    let bound := (Entries.get? range key).getD .null
    ∃ b, (if bound.isNull then .ok false
        else match bound.quantity? with
          | some q => .ok (rel q)
          | none => .error e : Except ImpossibleCheck Bool) = .ok b ∧
      (b = false ↔ ∀ q ∈ bound? range key, rel q = false) := by
  unfold bound?
  cases hbound : Entries.get? range key with
  | none => exact ⟨false, rfl, by simp⟩
  | some bound =>
    cases hq : bound.quantity? with
    | none =>
      have hnull : bound.isNull = true := (h bound hbound).resolve_right (by simp [hq])
      exact ⟨false, by simp [hnull], by simp [hq]⟩
    | some q =>
      have hnull : bound.isNull = false := by
        cases bound with
        | null => cases hq
        | _ => rfl
      exact ⟨rel q, by simp [hnull, hq], by simp [hq]⟩

theorem fits_member {range : Members} (key : String) (h : (Json.obj range).fits = true) :
    ((Entries.get? range key).getD .null).fits = true := by
  cases hbound : Entries.get? range key with
  | none => rfl
  | some bound => exact Json.fits_obj.1 h (key, bound) (Entries.mem_of_get?_eq_some hbound)

private theorem decides_range {range : Members} (value : Json) (n : Quantity)
    (h : ∀ key ∈ ["min", "max"], ∀ bound, Entries.get? range key = some bound →
      bound.isNull = true ∨ bound.quantity?.isSome = true) :
    Decides (checkRange range value n)
      ((∀ low ∈ bound? range "min", n.lt low = false) ∧
        ∀ high ∈ bound? range "max", high.lt n = false)
      ((Json.obj range).fits = true) := by
  obtain ⟨below, hbelow, hlow⟩ := exists_compare n.lt
    (.incomparable ⟨false, value, (Entries.get? range "min").getD .null⟩) (h "min" (by simp))
  obtain ⟨above, habove, hhigh⟩ := exists_compare (·.lt n)
    (.incomparable ⟨true, value, (Entries.get? range "max").getD .null⟩) (h "max" (by simp))
  have hbelow' : value.below? n ((Entries.get? range "min").getD .null) = .ok below := hbelow
  have habove' : value.above? n ((Entries.get? range "max").getD .null) = .ok above := habove
  have hwritable (hfits : (Json.obj range).fits = true) : (Violation.outside
      ((Entries.get? range "min").getD .null)
      ((Entries.get? range "max").getD .null)).isWritable = true := by
    rw [Violation.isWritable, fits_member "min" hfits, fits_member "max" hfits, Bool.and_self]
  simp only [checkRange, hbelow', habove', ← hlow, ← hhigh, bind, Except.bind, pure, Except.pure]
  cases below with
  | true => exact ⟨by simp, fun hfits => ⟨_, rfl, by simpa using hwritable hfits⟩⟩
  | false =>
    cases above with
    | true => exact ⟨by simp, fun hfits => ⟨_, rfl, by simpa using hwritable hfits⟩⟩
    | false => exact decides_none _ (by simp)

theorem decides_violation (h : v.IsPossible engine) (value : Json) :
    Decides (v.violation? engine value) (v.Permits engine value) (v.limit.fits = true) := by
  obtain ⟨kind, limit⟩ := v
  cases kind with
  | maxLength =>
    cases value with
    | str s => simpa [violation?, Permits] using decides_above fun _ => rfl
    | _ => exact decides_none _ (by simp [Permits])
  | minLength =>
    cases value with
    | str s => simpa [violation?, Permits] using decides_below fun _ => rfl
    | _ => exact decides_none _ (by simp [Permits])
  | maxItems =>
    cases value with
    | arr items => simpa [violation?, Permits] using decides_above fun _ => rfl
    | _ => exact decides_none _ (by simp [Permits])
  | minItems =>
    cases value with
    | arr items => simpa [violation?, Permits] using decides_below fun _ => rfl
    | _ => exact decides_none _ (by simp [Permits])
  | pattern =>
    cases value with
    | str s => simpa [violation?, Permits] using decides_pattern s h
    | _ => exact decides_none _ (by simp [Permits])
  | range =>
    cases hnumber : value.isNumber with
    | false =>
      have hnone : violation? engine ⟨.range, limit⟩ value = .ok none := by
        simp [violation?, hnumber]
      rw [hnone]
      exact decides_none _ (by simp [Permits, hnumber])
    | true =>
      obtain ⟨n, hn⟩ : ∃ n, value.quantity? = some n := by
        cases value with
        | int n => exact ⟨_, rfl⟩
        | float x => exact ⟨_, rfl⟩
        | _ => cases hnumber
      cases limit with
      | obj range =>
        simpa [violation?, Permits, hnumber, hn] using decides_range value n (h range rfl)
      | _ => simpa [violation?, hnumber, hn] using decides_none _ (by simp [Permits])

theorem check_eq_none_iff (h : v.IsPossible engine) :
    v.check engine value = .ok none ↔ v.Permits engine value := by
  rw [← (decides_violation h value).none_iff, check]
  rcases v.violation? engine value with e | _ | x
  · simp
  · simp
  · by_cases hx : x.isWritable = true <;> simp [hx]

theorem exists_check (h : v.IsPossible engine) (hfits : v.limit.fits = true) (value : Json) :
    ∃ x, v.check engine value = .ok x := by
  obtain ⟨x, hx, hwritable⟩ := (decides_violation h value).returns hfits
  cases x with
  | none => exact ⟨none, by simp [check, hx]⟩
  | some y => exact ⟨some y, by simp [check, hx, hwritable y rfl]⟩

end Validator

end SiteTemplate
