import Mathlib.Data.List.Forall2
import Mathlib.Data.List.Pairwise
import Mathlib.Tactic.ByContra
import Mathlib.Tactic.SplitIfs

/-!
# Steps that may fail, and lists by key

A step that may fail is followed by another one, or taken for each item of a list. Of the members of
a list that share a key, only the last is kept; the members that are kept stay in order.
-/

namespace SiteTemplate

variable {ε α β : Type} {r : Except ε α} {f : α → Except ε β} {xs : List α} {ys : List β}

theorem bind_eq_ok_iff {y : β} : r >>= f = .ok y ↔ ∃ x, r = .ok x ∧ f x = .ok y := by
  cases r with
  | error e => simp [bind, Except.bind]
  | ok x => simp [bind, Except.bind]

theorem bind_eq_error_iff {e : ε} :
    r >>= f = .error e ↔ r = .error e ∨ ∃ x, r = .ok x ∧ f x = .error e := by
  cases r with
  | error e => simp [bind, Except.bind]
  | ok x => simp [bind, Except.bind]

theorem exists_eq_ok_of_isOk (h : r.isOk = true) : ∃ x, r = .ok x := by
  cases r with
  | error e => cases h
  | ok x => exact ⟨x, rfl⟩

theorem mapError_eq_ok_iff {ε' : Type} {g : ε → ε'} {x : α} : r.mapError g = .ok x ↔ r = .ok x := by
  cases r with
  | error e => simp [Except.mapError]
  | ok y => simp [Except.mapError]

/-- What follows a step only counts where the step succeeds. -/
theorem bind_congr_of_eq_ok {g : α → Except ε β} (h : ∀ x, r = .ok x → f x = g x) :
    r.bind f = r.bind g := by
  cases r with
  | error e => rfl
  | ok x => exact h x rfl

theorem map_bind {γ : Type} {g : β → γ} : (r.bind f).map g = r.bind fun x => (f x).map g := by
  cases r <;> rfl

theorem map_eq_ok_iff {g : α → β} {y : β} : r.map g = .ok y ↔ ∃ x, r = .ok x ∧ g x = y := by
  cases r with
  | error e => simp [Except.map]
  | ok x => simp [Except.map]

theorem toOption_eq_some_iff {x : α} : r.toOption = some x ↔ r = .ok x := by
  cases r with
  | error e => simp [Except.toOption]
  | ok x => simp [Except.toOption]

/-- A step that may fail does fail. -/
def Fails (r : Except ε α) : Prop := ∃ e, r = .error e

@[simp] theorem fails_error (e : ε) : Fails (.error e : Except ε α) := ⟨e, rfl⟩

@[simp] theorem not_fails_ok (x : α) : ¬ Fails (.ok x : Except ε α) := by
  rintro ⟨e, he⟩
  cases he

@[simp] theorem not_fails_pure (x : α) : ¬ Fails (pure x : Except ε α) := not_fails_ok x

theorem not_fails_iff : ¬ Fails r ↔ ∃ x, r = .ok x := by
  cases r <;> simp

@[simp] theorem fails_bind_iff : Fails (r >>= f) ↔ Fails r ∨ ∃ x, r = .ok x ∧ Fails (f x) := by
  cases r with
  | error e => simp [bind, Except.bind]
  | ok x => simp [bind, Except.bind]

@[simp] theorem fails_map_iff {g : α → β} : Fails (g <$> r) ↔ Fails r := by
  cases r with
  | error e => simp [Functor.map, Except.map]
  | ok x => simp [Functor.map, Except.map]

theorem mapM_eq_ok_iff : xs.mapM f = .ok ys ↔ List.Forall₂ (fun x y => f x = .ok y) xs ys := by
  induction xs generalizing ys with
  | nil => simp [pure, Except.pure, eq_comm]
  | cons x xs ih =>
    rw [List.mapM_cons, List.forall₂_cons_left_iff]
    simp only [pure, Except.pure, bind_eq_ok_iff, ih, Except.ok.injEq]
    constructor
    · rintro ⟨y, hx, zs, hxs, rfl⟩
      exact ⟨y, zs, hx, hxs, rfl⟩
    · rintro ⟨y, zs, hx, hxs, rfl⟩
      exact ⟨y, hx, zs, hxs, rfl⟩

/-- Where every step succeeds, the traversal maps the list. -/
theorem mapM_eq_ok_map {g : α → β} (h : ∀ x ∈ xs, f x = .ok (g x)) :
    xs.mapM f = .ok (xs.map g) := by
  rw [mapM_eq_ok_iff, List.forall₂_map_right_iff, List.forall₂_same]
  exact h

theorem exists_eq_ok_of_mapM_eq_ok (h : xs.mapM f = .ok ys) {x : α} (hx : x ∈ xs) :
    ∃ y ∈ ys, f x = .ok y := by
  rw [mapM_eq_ok_iff] at h
  induction h with
  | nil => cases hx
  | cons hhead _ ih =>
    rcases List.mem_cons.1 hx with rfl | hx
    · exact ⟨_, List.mem_cons_self, hhead⟩
    · obtain ⟨y, hy, hxy⟩ := ih hx
      exact ⟨y, List.mem_cons_of_mem _ hy, hxy⟩

/-- A traversal fails exactly if a step does. -/
theorem fails_mapM_iff : Fails (xs.mapM f) ↔ ∃ x ∈ xs, Fails (f x) := by
  induction xs with
  | nil => simp
  | cons x xs ih =>
    rw [List.mapM_cons, fails_bind_iff]
    cases hx : f x with
    | error e => simp [hx]
    | ok y => simp [hx, ih]

/-- A traversal that fails does so as one of its steps does. -/
theorem exists_eq_error_of_mapM_eq_error {e : ε} (h : xs.mapM f = .error e) :
    ∃ x ∈ xs, f x = .error e := by
  induction xs with
  | nil => cases h
  | cons x xs ih =>
    rw [List.mapM_cons, bind_eq_error_iff] at h
    obtain hx | ⟨y, -, hrest⟩ := h
    · exact ⟨x, List.mem_cons_self, hx⟩
    · obtain hxs | ⟨ys, -, hpure⟩ := bind_eq_error_iff.1 hrest
      · obtain ⟨z, hz, hze⟩ := ih hxs
        exact ⟨z, List.mem_cons_of_mem x hz, hze⟩
      · cases hpure

/-- The results of a traversal are those of a function of the items. -/
theorem exists_eq_map_of_mapM_eq_ok [Inhabited β] (h : xs.mapM f = .ok ys) :
    ∃ g : α → β, ys = xs.map g ∧ ∀ x ∈ xs, f x = .ok (g x) := by
  let g (x : α) : β := (f x).toOption.getD default
  have hg : ∀ x ∈ xs, f x = .ok (g x) := by
    intro x hx
    obtain ⟨y, -, hy⟩ := exists_eq_ok_of_mapM_eq_ok h hx
    simp [g, hy, Except.toOption]
  exact ⟨g, Except.ok.inj (h.symm.trans (mapM_eq_ok_map hg)), hg⟩

end SiteTemplate

namespace SiteTemplate

variable {β κ : Type} [DecidableEq κ] {key : β → κ} {l m before after : List β} {a b : β}

/-- The members of a list whose key no later member has. -/
def lastBy (key : β → κ) (l : List β) : List β := l.pwFilter fun a b => key a ≠ key b

theorem lastBy_sublist : (lastBy key l).Sublist l := List.pwFilter_sublist l

theorem nodup_map_lastBy : ((lastBy key l).map key).Nodup :=
  List.pairwise_map.2 (List.pairwise_pwFilter l)

theorem lastBy_eq_self_iff : lastBy key l = l ↔ (l.map key).Nodup := by
  rw [lastBy, List.pwFilter_eq_self, List.Nodup, List.pairwise_map]

theorem forall_mem_lastBy_iff : (∀ a ∈ lastBy key l, key b ≠ key a) ↔ ∀ a ∈ l, key b ≠ key a := by
  apply List.forall_mem_pwFilter
  intro x y z hxz
  by_cases hxy : key x = key y
  · exact .inr (hxy ▸ hxz)
  · exact .inl hxy

theorem lastBy_cons : lastBy key (b :: l)
    = if key b ∈ l.map key then lastBy key l else b :: lastBy key l := by
  have hiff : (∀ a ∈ lastBy key l, key b ≠ key a) ↔ key b ∉ l.map key := by
    rw [forall_mem_lastBy_iff, List.mem_map]
    grind
  split_ifs with h
  · exact List.pwFilter_cons_of_neg fun hall => hiff.1 hall h
  · exact List.pwFilter_cons_of_pos (hiff.2 h)

theorem exists_mem_lastBy (h : b ∈ l) : ∃ a ∈ lastBy key l, key a = key b := by
  by_contra! hnone
  exact forall_mem_lastBy_iff.1 (fun a ha => (hnone a ha).symm) b h rfl

/-- A member whose key is used again later may as well be left out. -/
theorem lastBy_append_cons (h : key b ∈ after.map key) :
    lastBy key (before ++ b :: after) = lastBy key (before ++ after) := by
  have hdropped : lastBy key (b :: after) = lastBy key after := by rw [lastBy_cons, if_pos h]
  unfold lastBy List.pwFilter at hdropped ⊢
  rw [List.foldr_append, List.foldr_append, hdropped]

private theorem mem_map_lastBy {k : κ} : k ∈ (lastBy key l).map key ↔ k ∈ l.map key := by
  have hsub : (lastBy key l).Sublist l := lastBy_sublist
  refine ⟨fun h => (hsub.map key).subset h, fun h => ?_⟩
  obtain ⟨b, hb, rfl⟩ := List.mem_map.1 h
  have hkept : ∃ a ∈ lastBy key l, key a = key b := exists_mem_lastBy hb
  obtain ⟨a, ha, hab⟩ := hkept
  exact List.mem_map.2 ⟨a, ha, hab⟩

/-- Of two lists one after the other, the members of the first are kept that are kept of it alone
and whose key is not used in the second. -/
theorem lastBy_append :
    lastBy key (l ++ m) = (lastBy key l).filter (fun a => key a ∉ m.map key) ++ lastBy key m := by
  induction l with
  | nil => rfl
  | cons a l ih =>
    have hlater : key a ∈ (l ++ m).map key ↔ key a ∈ l.map key ∨ key a ∈ m.map key := by
      rw [List.map_append, List.mem_append]
    rw [List.cons_append, lastBy_cons, lastBy_cons, ih]
    by_cases hl : key a ∈ l.map key
    · rw [if_pos (hlater.2 (.inl hl)), if_pos hl]
    · by_cases hm : key a ∈ m.map key
      · rw [if_pos (hlater.2 (.inr hm)), if_neg hl, List.filter_cons_of_neg (by simpa using hm)]
      · rw [if_neg (mt hlater.1 (not_or.2 ⟨hl, hm⟩)), if_neg hl,
          List.filter_cons_of_pos (by simpa using hm), List.cons_append]

theorem lastBy_concat :
    lastBy key (l ++ [b]) = (lastBy key l).filter (fun a => key a ≠ key b) ++ [b] := by
  rw [lastBy_append]
  congr 1
  exact List.filter_congr fun a _ => by simp

theorem lastBy_lastBy : lastBy key (lastBy key l) = lastBy key l :=
  lastBy_eq_self_iff.2 nodup_map_lastBy

theorem lastBy_lastBy_append : lastBy key (lastBy key l ++ m) = lastBy key (l ++ m) := by
  rw [lastBy_append, lastBy_lastBy, lastBy_append]

theorem lastBy_append_lastBy : lastBy key (l ++ lastBy key m) = lastBy key (l ++ m) := by
  rw [lastBy_append, lastBy_lastBy, lastBy_append]
  simp only [mem_map_lastBy]

end SiteTemplate
