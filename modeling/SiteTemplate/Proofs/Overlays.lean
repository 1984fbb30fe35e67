import Mathlib.Data.List.Nodup
import SiteTemplate.Proofs.RegistryRuns

/-!
# Entries under settings

Settings are applied to entries one after the other. A key then has the value of its last setting,
or its old one; the old entries keep their places, and applying the same settings again changes
nothing.
-/

namespace SiteTemplate.Entries

variable {κ α : Type} [BEq κ] [LawfulBEq κ] {es : Entries κ α} {k : κ} {a : α}

/-- The last of several settings of a key. -/
def last? (settings : List (κ × α)) (k : κ) : Option α := get? settings.reverse k

omit [LawfulBEq κ] in
private theorem get?_append (as bs : Entries κ α) (k : κ) :
    get? (as ++ bs) k = (get? as k).or (get? bs k) := List.lookup_append

omit [LawfulBEq κ] in
@[simp] theorem last?_nil (k : κ) : last? ([] : List (κ × α)) k = none := rfl

omit [LawfulBEq κ] in
private theorem last?_cons (e : κ × α) (settings : List (κ × α)) (k : κ) :
    last? (e :: settings) k = (last? settings k).or (if k == e.1 then some e.2 else none) := by
  obtain ⟨j, a⟩ := e
  rw [last?, List.reverse_cons, get?_append, last?]
  congr 1
  cases h : k == j <;> simp [get?, List.lookup_cons, h]

theorem get?_cons_of_ne {j : κ} (h : k ≠ j) (a : α) (es : Entries κ α) :
    get? ((j, a) :: es) k = get? es k := by
  simp [get?, List.lookup_cons, beq_false_of_ne h]

omit [BEq κ] [LawfulBEq κ] in
/-- Where keys occur once, the entries around an entry have other keys. -/
theorem exists_split_of_mem (hkeys : (keys es).Nodup) (h : (k, a) ∈ es) :
    ∃ before after, es = before ++ (k, a) :: after
      ∧ (∀ e ∈ before, e.1 ≠ k) ∧ ∀ e ∈ after, e.1 ≠ k := by
  obtain ⟨before, after, rfl⟩ := List.append_of_mem h
  simp only [keys, List.map_append, List.map_cons, List.nodup_middle, List.nodup_cons,
    List.mem_append, not_or] at hkeys
  obtain ⟨⟨hbefore, hafter⟩, -⟩ := hkeys
  exact ⟨before, after, rfl, fun e he heq => hbefore (heq ▸ List.mem_map_of_mem he),
    fun e he heq => hafter (heq ▸ List.mem_map_of_mem he)⟩

private theorem get?_filterMap {β : Type} (f : α → Option β)
    (h : ∀ a, get? es k = some a → (f a).isSome) :
    get? (es.filterMap fun e => (f e.2).map (e.1, ·)) k = (get? es k).bind f := by
  induction es with
  | nil => rfl
  | cons e es ih =>
    obtain ⟨j, a⟩ := e
    by_cases hk : k = j
    · subst hk
      obtain ⟨b, hb⟩ := Option.isSome_iff_exists.1 (h a (by simp [get?]))
      simp [get?, hb]
    · rw [get?_cons_of_ne hk] at h ⊢
      rw [← ih h]
      cases hf : f a with
      | none => simp [hf]
      | some b => simp [hf, get?_cons_of_ne hk]

theorem last?_filterMap {β : Type} {settings : List (κ × α)} (f : α → Option β)
    (h : ∀ a, last? settings k = some a → (f a).isSome) :
    last? (settings.filterMap fun e => (f e.2).map (e.1, ·)) k = (last? settings k).bind f := by
  rw [last?, ← List.filterMap_reverse, get?_filterMap f h, last?]

theorem get?_mapValues {β : Type} (f : α → β) (es : Entries κ α) (k : κ) :
    get? (mapValues f es) k = (get? es k).map f := get?_map (fun _ => f) es k

omit [BEq κ] [LawfulBEq κ] in
@[simp] theorem keys_mapValues {β : Type} (f : α → β) (es : Entries κ α) :
    keys (mapValues f es) = keys es := by
  simp [keys, mapValues]

omit [LawfulBEq κ] in
private theorem put_mapValues {β : Type} (f : α → β) (k : κ) (a : α) (es : Entries κ α) :
    put k (f a) (mapValues f es) = mapValues f (put k a es) := by
  induction es with
  | nil => rfl
  | cons e es ih =>
    rw [mapValues, List.map_cons, put, put]
    split
    · rfl
    · rw [← mapValues, ih]
      rfl

omit [LawfulBEq κ] in
theorem putAll_mapValues {β : Type} (f : α → β) (es settings : Entries κ α) :
    putAll (mapValues f es) (mapValues f settings) = mapValues f (putAll es settings) := by
  induction settings generalizing es with
  | nil => rfl
  | cons e settings ih =>
    have hput : putAll (mapValues f es) (mapValues f (e :: settings))
        = putAll (put e.1 (f e.2) (mapValues f es)) (mapValues f settings) := rfl
    rw [hput, put_mapValues, ih]
    rfl

private theorem get?_put (k j : κ) (a : α) (es : Entries κ α) :
    get? (put k a es) j = if j == k then some a else get? es j := by
  by_cases h : j = k
  · subst h
    simp
  · simp [get?_put_of_ne h, h]

theorem get?_putAll (es settings : Entries κ α) (k : κ) :
    get? (putAll es settings) k = (last? settings k).or (get? es k) := by
  induction settings generalizing es with
  | nil => rfl
  | cons e settings ih =>
    have hput : putAll es (e :: settings) = putAll (put e.1 e.2 es) settings := rfl
    rw [hput, ih, last?_cons, Option.or_assoc, get?_put]
    congr 1
    cases k == e.1 <;> rfl

theorem keys_prefix_put (k : κ) (a : α) (es : Entries κ α) : keys es <+: keys (put k a es) := by
  by_cases h : k ∈ keys es
  · simp [keys_put_of_mem h]
  · rw [put_of_not_mem h, keys, keys, List.map_append]
    exact List.prefix_append _ _

theorem keys_prefix_putAll (es settings : Entries κ α) :
    keys es <+: keys (putAll es settings) := by
  induction settings generalizing es with
  | nil => exact List.prefix_rfl
  | cons e settings ih => exact (keys_prefix_put e.1 e.2 es).trans (ih _)

theorem put_put_self (k : κ) (a b : α) (es : Entries κ α) :
    put k a (put k b es) = put k a es := by
  induction es with
  | nil => simp [put]
  | cons e es ih =>
    obtain ⟨k', c⟩ := e
    by_cases h : k' = k
    · simp [put, h]
    · simp [put, h, ih]

private theorem put_comm {j : κ} (hne : j ≠ k) (hj : j ∈ keys es) (a b : α) :
    put j b (put k a es) = put k a (put j b es) := by
  induction es with
  | nil => cases hj
  | cons e es ih =>
    obtain ⟨k', c⟩ := e
    by_cases hk : k' = k
    · subst hk
      simp [put, Ne.symm hne]
    · by_cases hj' : k' = j
      · subst hj'
        simp [put, hk]
      · have hmem : j ∈ keys es := by simpa [keys, Ne.symm hj'] using hj
        simp [put, hk, hj', ih hmem]

private theorem put_putAll_put {settings : List (κ × α)} (h : ∀ e ∈ settings, e.1 ∈ keys es) (k : κ)
    (a b : α) : put k a (putAll (put k b es) settings) = put k a (putAll es settings) := by
  induction settings generalizing es with
  | nil => exact put_put_self k a b es
  | cons e settings ih =>
    obtain ⟨j, c⟩ := e
    rw [List.forall_mem_cons] at h
    have hkeys : ∀ e ∈ settings, e.1 ∈ keys (put j c es) := fun e he =>
      (keys_prefix_put j c es).subset (h.2 e he)
    change put k a (putAll (put j c (put k b es)) settings)
      = put k a (putAll (put j c es) settings)
    by_cases hj : j = k
    · rw [hj, put_put_self]
    · rw [put_comm hj h.1, ih hkeys]

omit [LawfulBEq κ] in
theorem putAll_concat (es settings : Entries κ α) (e : κ × α) :
    putAll es (settings ++ [e]) = put e.1 e.2 (putAll es settings) := by
  simp [putAll]

private theorem mem_keys_putAll (es : Entries κ α) {settings : List (κ × α)} {e : κ × α}
    (h : e ∈ settings) : e.1 ∈ keys (putAll es settings) := by
  induction settings generalizing es with
  | nil => cases h
  | cons e' settings ih =>
    rcases List.mem_cons.1 h with rfl | h
    · have hput : e.1 ∈ keys (put e.1 e.2 es) := has_eq_true_iff.1 (by simp [has])
      exact (keys_prefix_putAll _ settings).subset hput
    · exact ih _ h

theorem putAll_putAll_self (es settings : Entries κ α) :
    putAll (putAll es settings) settings = putAll es settings := by
  induction settings using List.reverseRecOn with
  | nil => rfl
  | append_singleton settings e ih =>
    have hkeys : ∀ e ∈ settings, e.1 ∈ keys (putAll es settings) := fun e he =>
      mem_keys_putAll es he
    rw [putAll_concat, putAll_concat, put_putAll_put hkeys, ih]

/-- One map under settings is another: a key has the value of its last setting or else its old one,
and no entry disappears. -/
structure Overlay (es : Entries κ α) (settings : List (κ × α)) (es' : Entries κ α) : Prop where
  get?_eq : ∀ k, get? es' k = (last? settings k).or (get? es k)
  keys_prefix : keys es <+: keys es'

theorem overlay_putAll (es settings : Entries κ α) : Overlay es settings (putAll es settings) :=
  ⟨get?_putAll es settings, keys_prefix_putAll es settings⟩

end SiteTemplate.Entries
