/-!
# Entries in insertion order

A finite map is a list of entries whose keys occur once. A new key goes to the end; a known key
keeps its place and takes the new value.
-/

namespace SiteTemplate

/-- Entries of a finite map in insertion order. -/
abbrev Entries (κ α : Type) := List (κ × α)

namespace Entries

variable {κ α : Type} [BEq κ]

def get? (es : Entries κ α) (k : κ) : Option α := es.lookup k

def has (es : Entries κ α) (k : κ) : Bool := (get? es k).isSome

def put (k : κ) (a : α) : Entries κ α → Entries κ α
  | [] => [(k, a)]
  | (k', b) :: es => if k' == k then (k', a) :: es else (k', b) :: put k a es

def putAll (es changes : Entries κ α) : Entries κ α :=
  changes.foldl (fun acc e => put e.1 e.2 acc) es

/-- The map that a list of settings leaves behind. -/
def ofList (settings : List (κ × α)) : Entries κ α := putAll [] settings

omit [BEq κ] in
def keys (es : Entries κ α) : List κ := es.map (·.1)

omit [BEq κ] in
def values (es : Entries κ α) : List α := es.map (·.2)

omit [BEq κ] in
def mapValues {β : Type} (f : α → β) (es : Entries κ α) : Entries κ β :=
  es.map fun e => (e.1, f e.2)

@[simp] theorem get?_nil (k : κ) : get? ([] : Entries κ α) k = none := rfl

@[simp] theorem put_nil (k : κ) (a : α) : put k a [] = [(k, a)] := rfl

@[simp] theorem get?_put_self [LawfulBEq κ] (k : κ) (a : α) (es : Entries κ α) :
    get? (put k a es) k = some a := by
  induction es with
  | nil => simp [put, get?]
  | cons e es ih =>
    obtain ⟨k', b⟩ := e
    by_cases h : k' = k
    · simp [put, get?, h]
    · simpa [put, get?, h, List.lookup_cons, beq_false_of_ne (Ne.symm h)] using ih

theorem get?_put_of_ne [LawfulBEq κ] {k j : κ} (h : j ≠ k) (a : α) (es : Entries κ α) :
    get? (put k a es) j = get? es j := by
  induction es with
  | nil => simp [put, get?, List.lookup_cons, beq_false_of_ne h]
  | cons e es ih =>
    obtain ⟨k', b⟩ := e
    by_cases hk : k' = k
    · subst hk
      simp [put, get?, List.lookup_cons, beq_false_of_ne h]
    · by_cases hj : j = k'
      · subst hj
        simp [put, get?, hk]
      · simpa [put, get?, hk, List.lookup_cons, beq_false_of_ne hj] using ih

theorem has_put [LawfulBEq κ] {es : Entries κ α} {j k : κ} {a : α} (h : has es j = true) :
    has (put k a es) j = true := by
  by_cases e : j = k
  · subst e
    simp [has]
  · simpa [has, get?_put_of_ne e] using h

theorem mem_of_get?_eq_some [LawfulBEq κ] {es : Entries κ α} {k : κ} {a : α}
    (h : get? es k = some a) : (k, a) ∈ es := by
  obtain ⟨before, after, rfl, -⟩ := List.lookup_eq_some_iff.1 h
  simp

/-- Where keys occur once, every entry is the one that its key finds. -/
theorem get?_eq_some_of_mem [LawfulBEq κ] {es : Entries κ α} (hkeys : (keys es).Nodup) {k : κ}
    {a : α} (h : (k, a) ∈ es) : get? es k = some a := by
  obtain ⟨before, after, rfl⟩ := List.append_of_mem h
  refine List.lookup_eq_some_iff.2 ⟨before, after, rfl, fun e he => ?_⟩
  simp only [keys, List.map_append, List.map_cons, List.nodup_append] at hkeys
  exact bne_iff_ne.2 (Ne.symm (hkeys.2.2 e.1 (List.mem_map_of_mem he) k List.mem_cons_self))

theorem mem_of_mem_put [LawfulBEq κ] {es : Entries κ α} {k : κ} {a : α} {e : κ × α}
    (h : e ∈ put k a es) : e = (k, a) ∨ e ∈ es := by
  induction es with
  | nil => exact .inl (List.mem_singleton.1 h)
  | cons f es ih =>
    obtain ⟨k', b⟩ := f
    by_cases hk : k' = k
    · simp only [put, hk, beq_self_eq_true, if_true, List.mem_cons] at h
      exact h.imp_right (List.mem_cons_of_mem _)
    · simp only [put, beq_false_of_ne hk, Bool.false_eq_true, if_false, List.mem_cons] at h
      rcases h with rfl | h
      · exact .inr List.mem_cons_self
      · exact (ih h).imp_right (List.mem_cons_of_mem _)

theorem mem_of_mem_putAll [LawfulBEq κ] {es changes : Entries κ α} {e : κ × α}
    (h : e ∈ putAll es changes) : e ∈ es ∨ e ∈ changes := by
  induction changes generalizing es with
  | nil => exact .inl h
  | cons c changes ih =>
    rcases ih h with hput | hmore
    · rcases mem_of_mem_put hput with rfl | hes
      · exact .inr List.mem_cons_self
      · exact .inl hes
    · exact .inr (List.mem_cons_of_mem _ hmore)

theorem mem_of_mem_ofList [LawfulBEq κ] {settings : List (κ × α)} {e : κ × α}
    (h : e ∈ ofList settings) : e ∈ settings :=
  (mem_of_mem_putAll h).resolve_left List.not_mem_nil

theorem put_of_not_mem [LawfulBEq κ] {es : Entries κ α} {k : κ} (h : k ∉ keys es) (a : α) :
    put k a es = es ++ [(k, a)] := by
  induction es with
  | nil => rfl
  | cons e es ih =>
    obtain ⟨k', b⟩ := e
    simp only [keys, List.map_cons, List.mem_cons, not_or] at h
    simp [put, beq_false_of_ne (Ne.symm h.1), ih h.2]

theorem putAll_eq_append [LawfulBEq κ] (es changes : Entries κ α)
    (h : (keys (es ++ changes)).Nodup) : putAll es changes = es ++ changes := by
  induction changes generalizing es with
  | nil => simp [putAll]
  | cons e changes ih =>
    have hsplit : es ++ e :: changes = (es ++ [e]) ++ changes := by simp
    have hnew : e.1 ∉ keys es := by
      simp only [keys, List.map_append, List.map_cons, List.nodup_append] at h
      exact fun hmem => h.2.2 e.1 hmem e.1 List.mem_cons_self rfl
    rw [hsplit] at h ⊢
    rw [← ih _ h, putAll, List.foldl_cons, put_of_not_mem hnew, ← putAll]

/-- Settings for keys that occur once are the map that they leave behind. -/
theorem ofList_eq_self [LawfulBEq κ] {settings : List (κ × α)} (h : (keys settings).Nodup) :
    ofList settings = settings :=
  putAll_eq_append [] settings h

theorem get?_map [LawfulBEq κ] {β : Type} (g : κ → α → β) (es : Entries κ α) (k : κ) :
    get? (es.map fun e => (e.1, g e.1 e.2)) k = (get? es k).map (g k) := by
  induction es with
  | nil => rfl
  | cons e es ih =>
    obtain ⟨k', a⟩ := e
    simp only [get?, List.map_cons, List.lookup_cons] at ih ⊢
    cases h : k == k' with
    | true => rw [eq_of_beq h]; rfl
    | false => exact ih

end Entries

end SiteTemplate
