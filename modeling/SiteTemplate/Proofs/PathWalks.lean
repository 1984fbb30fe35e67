import Mathlib.Data.Nat.Digits.Defs
import SiteTemplate.Json.Basic
import SiteTemplate.Proofs.Traversal
import SiteTemplate.Proofs.WrittenForm

/-!
# Walks along dotted paths

A look-up walks from a value to the one that the next segment addresses: a member of an object by
its name, an item of a list by its index. Where a segment is empty or addresses nothing, the
look-up ends with the default, whatever the segments behind it are. It breaks off exactly where a
list is met with a segment of digit forms that cannot be read as an index, because one of them is
no decimal digit or because they are too many.
-/

namespace SiteTemplate

open Text

namespace Text

variable {cs : List Char} {n : Nat}

/-- Decimal digits, most significant first, write a number. -/
def DigitsWrite (cs : List Char) (n : Nat) : Prop :=
  ∃ digits : List Nat, cs.map digitValue? = digits.map some ∧ Nat.ofDigits 10 digits.reverse = n

theorem digitsValue?_concat (cs : List Char) (c : Char) : digitsValue? (cs ++ [c])
    = (digitsValue? cs).bind fun n => (digitValue? c).map (10 * n + ·) := by
  rw [digitsValue?, List.foldl_append]
  rfl

theorem ofDigits_reverse_concat (digits : List Nat) (d : Nat) :
    Nat.ofDigits 10 (digits ++ [d]).reverse = 10 * Nat.ofDigits 10 digits.reverse + d := by
  rw [List.reverse_append, List.reverse_singleton, List.singleton_append, Nat.ofDigits_cons,
    Nat.add_comm]

theorem digitsValue?_eq_some_iff : digitsValue? cs = some n ↔ DigitsWrite cs n := by
  induction cs using List.reverseRecOn generalizing n with
  | nil => simp [digitsValue?, DigitsWrite]
  | append_singleton cs c ih =>
    simp only [digitsValue?_concat, Option.bind_eq_some_iff, Option.map_eq_some_iff, ih]
    constructor
    · rintro ⟨m, ⟨digits, hdigits, rfl⟩, d, hd, rfl⟩
      exact ⟨digits ++ [d], by simp [hdigits, hd], ofDigits_reverse_concat digits d⟩
    · rintro ⟨digits, hdigits, rfl⟩
      rw [List.map_append] at hdigits
      obtain ⟨front, last, rfl, hfront, hlast⟩ := List.map_eq_append_iff.1 hdigits.symm
      obtain ⟨d, rfl, hd⟩ := List.map_eq_singleton_iff.1 hlast
      exact ⟨_, ⟨front, hfront.symm, rfl⟩, d, hd.symm, (ofDigits_reverse_concat front d).symm⟩

theorem isSome_digitsValue?_iff :
    (digitsValue? cs).isSome ↔ ∀ c ∈ cs, isDecimalDigit c = true := by
  induction cs using List.reverseRecOn with
  | nil => simp [digitsValue?]
  | append_singleton cs c ih =>
    rw [digitsValue?_concat, List.forall_mem_append, ← ih, List.forall_mem_singleton,
      isDecimalDigit]
    cases digitsValue? cs <;> cases digitValue? c <;> simp

end Text

namespace Json

variable {v u w x : Json} {segment : String} {rest segments : List String} {n : Nat}

/-- A segment addresses a value inside another one. -/
inductive Addresses : Json → String → Json → Prop where
  | member {members : Members} {name : String} {w : Json} (hne : name ≠ "")
    (hw : Entries.get? members name = some w) : Addresses (.obj members) name w
  | item {items : List Json} {segment : String} {n : Nat} {w : Json} (hne : segment ≠ "")
    (hn : DigitsWrite segment.toList n) (hw : items[n]? = some w) : Addresses (.arr items) segment w

/-- Digit forms that cannot be read as an index: one of them is no decimal digit, or they are too
many. -/
def IsUnreadable (segment : String) : Prop :=
  segment ≠ "" ∧ (∀ c ∈ segment.toList, isDigitForm c = true)
    ∧ ((∃ c ∈ segment.toList, isDecimalDigit c = false) ∨ mostDigits < segment.toList.length)

/-- A list is met with digit forms that cannot be read as an index. -/
def Rejects (v : Json) (segment : String) : Prop :=
  (∃ items, v = .arr items) ∧ IsUnreadable segment

private theorem digitCount_eq (h : ∀ c ∈ segment.toList, isDecimalDigit c = true) :
    digitCount segment = segment.toList.length := by
  rw [digitCount, List.takeWhile_eq_self_iff.2 h]

theorem index?_eq_ok_iff : index? segment = .ok n ↔
    DigitsWrite segment.toList n ∧ segment.toList.length ≤ mostDigits := by
  rw [← digitsValue?_eq_some_iff]
  by_cases hall : ∀ c ∈ segment.toList, isDecimalDigit c = true
  · rw [index?, digitCount_eq hall]
    split_ifs with hlength
    · cases digitsValue? segment.toList <;> simp [hlength]
    · simp [hlength]
  · rw [← isSome_digitsValue?_iff, Bool.not_eq_true, Option.isSome_eq_false_iff,
      Option.isNone_iff_eq_none] at hall
    rw [index?, hall]
    split_ifs <;> simp

theorem exists_digitsWrite_iff :
    (∃ n, DigitsWrite segment.toList n) ↔ ∀ c ∈ segment.toList, isDecimalDigit c = true := by
  simp only [← digitsValue?_eq_some_iff, ← isSome_digitsValue?_iff, Option.isSome_iff_exists]

private theorem fails_index?_iff : Fails (index? segment) ↔
    (∃ c ∈ segment.toList, isDecimalDigit c = false) ∨ mostDigits < segment.toList.length := by
  rw [← not_iff_not, not_fails_iff]
  simp only [index?_eq_ok_iff, exists_and_right, exists_digitsWrite_iff, not_or, not_exists,
    not_and, Bool.not_eq_false, not_lt]

theorem stepInto?_arr (items : List Json) (hne : segment ≠ "") : (arr items).stepInto? segment
    = if segment.toList.all isDigitForm then (index? segment).map (items[·]?) else .ok none := by
  rw [stepInto?, if_neg hne]

private theorem addresses_arr_iff {items : List Json} : Addresses (.arr items) segment w ↔
    segment ≠ "" ∧ ∃ n, DigitsWrite segment.toList n ∧ items[n]? = some w := by
  constructor
  · rintro (_ | ⟨hne, hn, hw⟩)
    exact ⟨hne, _, hn, hw⟩
  · rintro ⟨hne, n, hn, hw⟩
    exact .item hne hn hw

private theorem addresses_obj_iff {members : Members} : Addresses (.obj members) segment w ↔
    segment ≠ "" ∧ Entries.get? members segment = some w := by
  constructor
  · rintro (⟨hne, hw⟩ | _)
    exact ⟨hne, hw⟩
  · rintro ⟨hne, hw⟩
    exact .member hne hw

theorem rejects_arr_iff {items : List Json} (hne : segment ≠ "") : Rejects (.arr items) segment ↔
    (∀ c ∈ segment.toList, isDigitForm c = true) ∧ Fails (index? segment) := by
  simp [Rejects, IsUnreadable, hne, fails_index?_iff]

theorem fails_stepInto?_iff : Fails (v.stepInto? segment) ↔ Rejects v segment := by
  by_cases hne : segment = ""
  · simp [stepInto?, Rejects, IsUnreadable, hne]
  · cases v with
    | arr items =>
      rw [stepInto?_arr items hne, rejects_arr_iff hne, ← List.all_eq_true]
      split_ifs with hforms
      · rw [and_iff_right hforms]
        exact fails_map_iff
      · simp [hforms]
    | _ => simp [stepInto?, Rejects, hne]

theorem isDigitForm_of_digitsWrite (h : DigitsWrite segment.toList n) :
    ∀ c ∈ segment.toList, isDigitForm c = true := by
  intro c hc
  rw [isDigitForm, exists_digitsWrite_iff.1 ⟨n, h⟩ c hc, Bool.true_or]

private theorem stepInto?_arr_eq_some_iff {items : List Json} (hne : segment ≠ "") :
    (arr items).stepInto? segment = .ok (some w) ↔
      ∃ n, index? segment = .ok n ∧ items[n]? = some w := by
  rw [stepInto?_arr items hne]
  split_ifs with hforms
  · exact map_eq_ok_iff
  · constructor
    · intro h
      cases Except.ok.inj h
    · rintro ⟨n, hn, -⟩
      have hwritten := (index?_eq_ok_iff.1 hn).1
      exact absurd (List.all_eq_true.2 (isDigitForm_of_digitsWrite hwritten)) hforms

private theorem stepInto?_eq_some_iff : v.stepInto? segment = .ok (some w) ↔
    ¬ Rejects v segment ∧ Addresses v segment w := by
  by_cases hne : segment = ""
  · subst hne
    constructor
    · intro h
      cases Except.ok.inj h
    · rintro ⟨-, _ | _⟩ <;> contradiction
  · cases v with
    | arr items =>
      rw [stepInto?_arr_eq_some_iff hne, rejects_arr_iff hne, addresses_arr_iff]
      constructor
      · rintro ⟨n, hn, hw⟩
        have hreads : ¬ Fails (index? segment) := not_fails_iff.2 ⟨n, hn⟩
        exact ⟨fun h => hreads h.2, hne, n, (index?_eq_ok_iff.1 hn).1, hw⟩
      · rintro ⟨hreads, -, n, hn, hw⟩
        -- Too many digits write an index as well, but then the list rejects them.
        obtain ⟨m, hm⟩ := not_fails_iff.1 fun h => hreads ⟨isDigitForm_of_digitsWrite hn, h⟩
        exact ⟨n, index?_eq_ok_iff.2 ⟨hn, (index?_eq_ok_iff.1 hm).2⟩, hw⟩
    | obj members =>
      rw [stepInto?, if_neg hne, addresses_obj_iff]
      simp [Rejects, hne]
    | _ =>
      constructor
      · intro h
        simp [stepInto?, hne] at h
      · rintro ⟨-, _ | _⟩

theorem exists_addresses_iff {found : Option Json} {P : Json → Prop}
    (h : v.stepInto? segment = .ok found) :
    (∃ u, Addresses v segment u ∧ P u) ↔ ∃ u, found = some u ∧ P u := by
  have hreads : ¬ Rejects v segment := by
    rw [← fails_stepInto?_iff, h]
    exact not_fails_ok found
  have haddresses (u : Json) : Addresses v segment u ↔ found = some u := by
    have hfinds : v.stepInto? segment = .ok (some u) ↔
        ¬ Rejects v segment ∧ Addresses v segment u := stepInto?_eq_some_iff
    rw [h, Except.ok.injEq, and_iff_right hreads] at hfinds
    exact hfinds.symm
  simp only [haddresses]

/-- Segments lead from a value to another one. -/
inductive LeadsTo : Json → List String → Json → Prop where
  | here {v : Json} : LeadsTo v [] v
  | step {v u w : Json} {segment : String} {rest : List String} (h : Addresses v segment u)
    (hrest : LeadsTo u rest w) : LeadsTo v (segment :: rest) w

/-- On the walk from a value along segments something holds of a value and the segment that is
next. -/
inductive Meets (P : Json → String → Prop) : Json → List String → Prop where
  | here {v : Json} {segment : String} {rest : List String} (h : P v segment) :
    Meets P v (segment :: rest)
  | beyond {v u : Json} {segment : String} {rest : List String} (h : Addresses v segment u)
    (hrest : Meets P u rest) : Meets P v (segment :: rest)

/-- A walk breaks off where a list rejects a segment. -/
def BreaksOff (v : Json) (segments : List String) : Prop := Meets Rejects v segments

/-- A walk misses its end where a segment addresses nothing. -/
def Misses (v : Json) (segments : List String) : Prop :=
  Meets (fun u segment => ∀ w, ¬ Addresses u segment w) v segments

private theorem leadsTo_cons_iff :
    LeadsTo v (segment :: rest) w ↔ ∃ u, Addresses v segment u ∧ LeadsTo u rest w := by
  constructor
  · rintro (_ | ⟨h, hrest⟩)
    exact ⟨_, h, hrest⟩
  · rintro ⟨u, h, hrest⟩
    exact .step h hrest

theorem meets_cons_iff {P : Json → String → Prop} : Meets P v (segment :: rest) ↔
    P v segment ∨ ∃ u, Addresses v segment u ∧ Meets P u rest := by
  constructor
  · rintro (h | ⟨h, hrest⟩)
    · exact .inl h
    · exact .inr ⟨_, h, hrest⟩
  · rintro (h | ⟨u, h, hrest⟩)
    · exact .here h
    · exact .beyond h hrest

theorem not_meets_nil {P : Json → String → Prop} : ¬ Meets P v [] := nofun

private theorem leadsTo_nil_iff : LeadsTo v [] w ↔ v = w := by
  constructor
  · rintro ⟨⟩
    rfl
  · rintro rfl
    exact .here

theorem follow_cons (v : Json) (segment : String) (rest : List String) :
    v.follow (segment :: rest) = match v.stepInto? segment with
      | .error e => .error e
      | .ok none => .ok none
      | .ok (some u) => u.follow rest := rfl

private theorem fails_follow_iff : Fails (v.follow segments) ↔ BreaksOff v segments := by
  -- The walk goes on from what the first step finds, so the induction leaves the value open.
  induction segments generalizing v with
  | nil => simp [BreaksOff, not_meets_nil]
  | cons segment rest ih =>
    rw [BreaksOff, meets_cons_iff, ← fails_stepInto?_iff, follow_cons]
    cases hstep : v.stepInto? segment with
    | error e => simp
    | ok found =>
      rw [exists_addresses_iff hstep]
      cases found with
      | none => simp
      | some u => simpa [BreaksOff] using ih

theorem follow_eq_some_iff : v.follow segments = .ok (some w) ↔
    ¬ BreaksOff v segments ∧ LeadsTo v segments w := by
  induction segments generalizing v with
  | nil => simp [BreaksOff, not_meets_nil, leadsTo_nil_iff]
  | cons segment rest ih =>
    rw [BreaksOff, meets_cons_iff, leadsTo_cons_iff, ← fails_stepInto?_iff, follow_cons]
    cases hstep : v.stepInto? segment with
    | error e => simp
    | ok found =>
      rw [exists_addresses_iff hstep, exists_addresses_iff hstep]
      cases found with
      | none => simp
      | some u => simpa [BreaksOff] using ih

theorem follow_eq_none_iff : v.follow segments = .ok none ↔
    ¬ BreaksOff v segments ∧ Misses v segments := by
  induction segments generalizing v with
  | nil => simp [Misses, not_meets_nil]
  | cons segment rest ih =>
    rw [BreaksOff, Misses, meets_cons_iff, meets_cons_iff, ← fails_stepInto?_iff, follow_cons]
    cases hstep : v.stepInto? segment with
    | error e => simp
    | ok found =>
      have hnothing : (∀ w, ¬ Addresses v segment w) ↔ found = none := by
        have hfound := exists_addresses_iff (P := fun _ => True) hstep
        cases found <;> simp_all
      rw [exists_addresses_iff hstep, exists_addresses_iff hstep, hnothing]
      cases found with
      | none => simp
      | some u => simpa [BreaksOff, Misses] using ih

/-- The segments of a path are its parts between the dots without the blanks around them. -/
def IsParted (path : String) (segments : List String) : Prop :=
  ∃ first more, path.toList = first ++ more.flatMap ('.' :: ·)
    ∧ (∀ part ∈ first :: more, '.' ∉ part)
    ∧ segments = (first :: more).map fun part => .ofList (trim part)

private theorem isParted_pathSegments (path : String) : IsParted path (pathSegments path) := by
  obtain ⟨first, more, hsplit, hpath, hfirst, hmore⟩ :=
    Placeholder.exists_splitOnP_dot path.toList
  refine ⟨first, more, hpath, ?_, ?_⟩
  · exact List.forall_mem_cons.2 ⟨hfirst, hmore⟩
  · rw [pathSegments, hsplit]

/-- A look-up follows the segments of the path. It gives the value to which they lead, or the
default where one of them addresses nothing, unless it breaks off; and it breaks off exactly where a
list is met with digit forms that cannot be read as an index. -/
theorem valueAt_ends (v : Json) (path : String) (default : Json) :
    IsParted path (pathSegments path)
    ∧ (Fails (v.valueAt path default) ↔ BreaksOff v (pathSegments path))
    ∧ ∀ w, v.valueAt path default = .ok w ↔ ¬ BreaksOff v (pathSegments path)
      ∧ (LeadsTo v (pathSegments path) w ∨ Misses v (pathSegments path) ∧ w = default) := by
  refine ⟨isParted_pathSegments path, fails_map_iff.trans fails_follow_iff, fun w => ?_⟩
  rw [valueAt, map_eq_ok_iff, at?]
  constructor
  · rintro ⟨found, hfound, rfl⟩
    cases found with
    | none =>
      obtain ⟨hreads, hmisses⟩ := follow_eq_none_iff.1 hfound
      exact ⟨hreads, .inr ⟨hmisses, rfl⟩⟩
    | some u =>
      obtain ⟨hreads, hleads⟩ := follow_eq_some_iff.1 hfound
      exact ⟨hreads, .inl hleads⟩
  · rintro ⟨hreads, hleads | ⟨hmisses, rfl⟩⟩
    · exact ⟨some w, follow_eq_some_iff.2 ⟨hreads, hleads⟩, rfl⟩
    · exact ⟨none, follow_eq_none_iff.2 ⟨hreads, hmisses⟩, rfl⟩

/-- A superscript addresses no item of a list, and yet the look-up does not give the default. -/
theorem valueAt_superscript :
    Misses (.obj [("items", .arr ["tea"])]) (pathSegments "items.²")
    ∧ (Json.obj [("items", .arr ["tea"])]).valueAt "items.²" .null = .error ⟨"²"⟩ := by
  have hnone (n : Nat) : ¬ DigitsWrite "²".toList n := fun h =>
    absurd (exists_digitsWrite_iff.1 ⟨n, h⟩ '²' (by decide)) (by decide)
  refine ⟨?_, rfl⟩
  have hitems : Addresses (.obj [("items", .arr ["tea"])]) "items" (.arr ["tea"]) :=
    .member (by decide) rfl
  refine Meets.beyond hitems (.here fun w => ?_)
  rintro (_ | ⟨-, hn, -⟩)
  exact hnone _ hn

end Json

end SiteTemplate
