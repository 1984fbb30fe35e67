import Mathlib.Data.List.Forall2
import SiteTemplate.UserData

/-!
# Records that can be read

A record is read exactly if each of its fields is, and a member that is no spelling of a field makes
no difference to the field. Each kind of reading is told by the values from which it succeeds and
what it makes of them.
-/

namespace SiteTemplate

variable {α β : Type}

namespace Reading

theorem pure_eq_ok_iff {a b : α} : (pure a : Reading α) = ok b ↔ a = b := by
  constructor
  · intro h
    exact Except.ok.inj h
  · rintro rfl
    rfl

theorem seq_eq_ok_iff {f : Reading (α → β)} {r : Reading α} {b : β} :
    f <*> r = ok b ↔ ∃ g a, f = ok g ∧ r = ok a ∧ g a = b := by
  constructor
  · intro h
    rcases f with e | g <;> rcases r with e' | a <;> cases h
    exact ⟨g, a, rfl, rfl, rfl⟩
  · rintro ⟨g, a, rfl, rfl, rfl⟩
    rfl

@[simp] theorem pure_seq_ok (f : α → β) (a : α) :
    (pure f : Reading (α → β)) <*> ok a = ok (f a) := rfl

@[simp] theorem ok_seq_ok (f : α → β) (a : α) : ok f <*> ok a = ok (f a) := rfl

@[simp] theorem ok_eq_ok_iff {a b : α} : (ok a : Reading α) = ok b ↔ a = b := pure_eq_ok_iff

@[simp] theorem fault_ne_ok (kind : FaultKind) (a : α) : fault kind ≠ ok a := nofun

@[simp] theorem within_eq_ok_iff {p : Place} {r : Reading α} {a : α} :
    r.within p = ok a ↔ r = ok a := by
  rcases r with es | b
  · exact iff_of_false nofun nofun
  · rfl

theorem toOption_eq_some_iff {r : Reading α} {a : α} : r.toOption = some a ↔ r = ok a := by
  rcases r with es | b
  · exact iff_of_false nofun nofun
  · rw [toOption, Option.some.injEq]
    exact ok_eq_ok_iff.symm

theorem map_eq_ok_iff {f : α → β} {r : Reading α} {b : β} :
    map f r = ok b ↔ ∃ a, r = ok a ∧ f a = b := by
  rcases r with es | a
  · exact iff_of_false nofun nofun
  · constructor
    · intro h
      exact ⟨a, rfl, Except.ok.inj h⟩
    · rintro ⟨a', h, rfl⟩
      cases h
      rfl

theorem andThen_eq_ok_iff {r : Reading α} {next : α → Reading β} {b : β} :
    r.andThen next = ok b ↔ ∃ a, r = ok a ∧ next a = ok b := by
  rcases r with es | a
  · exact iff_of_false nofun nofun
  · constructor
    · intro h
      exact ⟨a, rfl, h⟩
    · rintro ⟨a', h, hnext⟩
      cases h
      exact hnext

theorem all_eq_ok_iff {rs : List (Reading α)} {as : List α} :
    all rs = ok as ↔ List.Forall₂ (fun r a => r = ok a) rs as := by
  induction rs generalizing as with
  | nil =>
    rw [all, ok_eq_ok_iff, List.forall₂_nil_left_iff]
    exact eq_comm
  | cons r rs ih =>
    have hall : all (r :: rs) = (map (· :: ·) r) <*> all rs := rfl
    simp only [hall, seq_eq_ok_iff, map_eq_ok_iff, List.forall₂_cons_left_iff, ih]
    constructor
    · rintro ⟨_, as, ⟨a, ha, rfl⟩, has, rfl⟩
      exact ⟨a, as, ha, has, rfl⟩
    · rintro ⟨a, as, ha, has, rfl⟩
      exact ⟨_, as, ⟨a, ha, rfl⟩, has, rfl⟩

end Reading

namespace Record

variable {o : Members} {k : Key} {key : String}

private theorem find?_put_of_ne (v : Json) (hwire : k.wire ≠ key) (hname : k.name ≠ key) :
    find? (Entries.put key v o) k = find? o k := by
  rw [find?, find?, Entries.get?_put_of_ne hwire, Entries.get?_put_of_ne hname]

private theorem optional_put_of_ne (v : Json) (hwire : k.wire ≠ key) (hname : k.name ≠ key)
    (default : α)
    (read : Json → Reading α) :
    optional (Entries.put key v o) k default read = optional o k default read := by
  rw [optional, optional, find?_put_of_ne v hwire hname]

/-- What a field finds is the value of a member. -/
theorem exists_mem_of_find? {e : String × Json} (h : find? o k = some e) :
    ∃ key, (key, e.2) ∈ o := by
  rw [find?] at h
  split at h
  · next hwire =>
    cases h
    exact ⟨_, Entries.mem_of_get?_eq_some hwire⟩
  · obtain ⟨v, hname, rfl⟩ := Option.map_eq_some_iff.1 h
    exact ⟨_, Entries.mem_of_get?_eq_some hname⟩

theorem find?_single (o : Members) (key : String) :
    find? o (.single key) = (Entries.get? o key).map (key, ·) := by
  rw [find?, Key.single]
  cases Entries.get? o key <;> rfl

private theorem optional_put_single {v : Json} {default a : α} {read : Json → Reading α}
    (h : read v = Reading.ok a) :
    optional (Entries.put key v o) (.single key) default read = Reading.ok a := by
  simp only [optional, find?, Key.single, Entries.get?_put_self, h, Reading.within_ok]

theorem required_eq_ok_iff {read : Json → Reading α} {a : α} :
    required o k read = Reading.ok a ↔ ∃ e, find? o k = some e ∧ read e.2 = Reading.ok a := by
  rw [required]
  cases find? o k with
  | none => exact iff_of_false nofun (by rintro ⟨e, he, -⟩; cases he)
  | some e => simp

theorem optional_eq_ok_iff {default a : α} {read : Json → Reading α} :
    optional o k default read = Reading.ok a ↔
      (find? o k = none ∧ default = a) ∨ ∃ e, find? o k = some e ∧ read e.2 = Reading.ok a := by
  rw [optional]
  cases find? o k with
  | none => simp
  | some e => simp

theorem optional_of_find? {default a : α} {read : Json → Reading α} {v : Json}
    (hfind : find? o k = some (key, v)) (hread : read v = Reading.ok a) :
    optional o k default read = Reading.ok a :=
  optional_eq_ok_iff.2 (.inr ⟨(key, v), hfind, hread⟩)

/-- What holds of the default of a field and of all values that are read holds of the field. -/
theorem of_optional {P : α → Prop} {default a : α} {read : Json → Reading α}
    (h : optional o k default read = Reading.ok a) (hdefault : P default)
    (hread : ∀ v a, read v = Reading.ok a → P a) : P a := by
  rcases optional_eq_ok_iff.1 h with ⟨-, rfl⟩ | ⟨e, -, he⟩
  · exact hdefault
  · exact hread e.2 a he

theorem read_eq_ok_iff {fields : Members → Reading α} {v : Json} {a : α} :
    Record.read fields v = Reading.ok a ↔ ∃ o, v = .obj o ∧ fields o = Reading.ok a := by
  cases v with
  | obj o => simp [Record.read]
  | _ => exact iff_of_false nofun (by rintro ⟨o, h, -⟩; cases h)

end Record

namespace Read

variable {v : Json}

theorem nonEmptyText_eq_ok_iff {s : String} :
    nonEmptyText v = Reading.ok s ↔ v = .str s ∧ s ≠ "" := by
  cases v with
  | str t =>
    rw [nonEmptyText, text, Reading.andThen_ok, Json.str.injEq]
    by_cases ht : t = ""
    · subst ht
      rw [if_pos rfl]
      exact iff_of_false (Reading.fault_ne_ok _ _) (by rintro ⟨rfl, h⟩; exact h rfl)
    · rw [if_neg ht, Reading.ok_eq_ok_iff]
      exact ⟨fun h => ⟨h, h ▸ ht⟩, And.left⟩
  | _ => exact iff_of_false nofun (by rintro ⟨h, -⟩; cases h)

theorem le_of_intAtLeast {least n : Int} (h : intAtLeast least v = Reading.ok n) : least ≤ n := by
  obtain ⟨m, -, hm⟩ := Reading.andThen_eq_ok_iff.1 h
  split at hm
  · cases hm
  · obtain rfl := Reading.ok_eq_ok_iff.1 hm
    omega

theorem mem_of_choice {choices : List α} {name : α → String} {a : α}
    (h : choice choices name v = Reading.ok a) : a ∈ choices := by
  cases v with
  | str s =>
    rw [choice] at h
    cases hfind : choices.find? (name · == s) with
    | none => simp [hfind] at h
    | some b =>
      obtain rfl : b = a := by simpa [hfind] using h
      exact List.mem_of_find?_eq_some hfind
  | _ => cases h

theorem nullable_eq_ok_none_iff {read : Json → Reading α} :
    nullable read v = Reading.ok none ↔ v = .null := by
  cases v with
  | null => exact iff_of_true rfl rfl
  | _ =>
    refine iff_of_false (fun h => ?_) nofun
    obtain ⟨a, -, ha⟩ := Reading.map_eq_ok_iff.1 h
    cases ha

theorem nullable_eq_ok_some_iff {read : Json → Reading α} {a : α} :
    nullable read v = Reading.ok (some a) ↔ v ≠ .null ∧ read v = Reading.ok a := by
  cases v with
  | null => exact iff_of_false nofun (fun h => h.1 rfl)
  | _ => simp [nullable, Reading.map_eq_ok_iff]

theorem list_eq_ok_iff {read : Json → Reading α} {as : List α} :
    list read v = Reading.ok as ↔
      ∃ vs, v = .arr vs ∧ List.Forall₂ (fun v a => read v = Reading.ok a) vs as := by
  cases v with
  | arr vs =>
    simp only [list, Reading.all_eq_ok_iff, List.forall₂_map_left_iff, Reading.within_eq_ok_iff,
      Json.arr.injEq, exists_eq_left']
    have hitems : List.Forall₂ (fun v a => read v = Reading.ok a) (vs.zipIdx.map Prod.fst) as ↔
        List.Forall₂ (fun e a => read e.1 = Reading.ok a) vs.zipIdx as :=
      List.forall₂_map_left_iff
    rw [← hitems, List.zipIdx_map_fst]
  | _ => exact iff_of_false nofun (by rintro ⟨vs, h, -⟩; cases h)

theorem entries_eq_ok_iff {read : Json → Reading α} {es : Entries String α} :
    entries read v = Reading.ok es ↔ ∃ ms, v = .obj ms ∧
      List.Forall₂ (fun m e => m.1 = e.1 ∧ read m.2 = Reading.ok e.2) ms es := by
  cases v with
  | obj ms =>
    simp only [entries, Reading.all_eq_ok_iff, List.forall₂_map_left_iff, Reading.map_eq_ok_iff,
      Reading.within_eq_ok_iff, Json.obj.injEq, exists_eq_left']
    refine iff_of_eq (congrFun (congrFun (congrArg List.Forall₂ ?_) _) _)
    funext m e
    obtain ⟨key, a⟩ := e
    simp [and_comm]
  | _ => exact iff_of_false nofun (by rintro ⟨ms, h, -⟩; cases h)

theorem forall_of_nullable {P : α → Prop} {read : Json → Reading α} {a? : Option α}
    (h : nullable read v = Reading.ok a?) (hread : ∀ v a, read v = Reading.ok a → P a) :
    ∀ a, a? = some a → P a := by
  rintro a rfl
  exact hread v a (nullable_eq_ok_some_iff.1 h).2

theorem forall_mem_of_list {P : α → Prop} {read : Json → Reading α} {as : List α}
    (h : list read v = Reading.ok as) (hread : ∀ v a, read v = Reading.ok a → P a) :
    ∀ a ∈ as, P a := by
  obtain ⟨vs, -, has⟩ := list_eq_ok_iff.1 h
  clear h
  induction has with
  | nil => nofun
  | cons ha _ ih => exact List.forall_mem_cons.2 ⟨hread _ _ ha, ih⟩

theorem forall_mem_of_entries {P : α → Prop} {read : Json → Reading α} {es : Entries String α}
    (h : entries read v = Reading.ok es) (hread : ∀ v a, read v = Reading.ok a → P a) :
    ∀ e ∈ es, P e.2 := by
  obtain ⟨ms, -, hes⟩ := entries_eq_ok_iff.1 h
  clear h
  induction hes with
  | nil => nofun
  | cons he _ ih => exact List.forall_mem_cons.2 ⟨hread _ _ he.2, ih⟩

theorem members_eq_ok_iff {ms : Members} : members v = Reading.ok ms ↔ v = .obj ms := by
  cases v with
  | obj ms' => simp [members]
  | _ => exact iff_of_false nofun nofun

end Read

namespace UserData

open Record

variable {o : Members} {d : UserData}

theorem read_obj_eq_ok_iff : read (.obj o) = Reading.ok d ↔
    optional o ⟨"brand_name", "brandName"⟩ none (Read.nullable Read.text) = Reading.ok d.brandName
    ∧ optional o (.single "theme") none (Read.nullable Read.text) = Reading.ok d.theme
    ∧ optional o (.single "content") [] Read.members = Reading.ok d.content
    ∧ optional o (.single "images") [] Read.members = Reading.ok d.images
    ∧ optional o (.single "slots") [] Read.members = Reading.ok d.slots
    ∧ optional o (.single "customizations") [] Read.members = Reading.ok d.customizations
    ∧ optional o ⟨"dynamic_data", "dynamicData"⟩ [] Read.members = Reading.ok d.dynamicData
    ∧ optional o ⟨"ai_content", "aiContent"⟩ [] Read.members = Reading.ok d.aiContent
    ∧ optional o ⟨"use_ai", "useAI"⟩ true Read.bool = Reading.ok d.useAI := by
  cases d
  simp only [read, Record.read, Reading.seq_eq_ok_iff, Reading.pure_eq_ok_iff, and_assoc,
    exists_and_left, exists_eq_left', ↓existsAndEq, and_true, mk.injEq]

/-- Data with the name of another theme are read as the same data, but for that name. -/
theorem read_put_theme (name : String) (h : read (.obj o) = Reading.ok d) :
    read (.obj (Entries.put "theme" (.str name) o))
      = Reading.ok { d with theme := some name } := by
  obtain ⟨hbrand, -, hothers⟩ := read_obj_eq_ok_iff.1 h
  have htheme : optional (Entries.put "theme" (.str name) o) (.single "theme") none
      (Read.nullable Read.text) = Reading.ok (some name) := optional_put_single rfl
  rw [read_obj_eq_ok_iff]
  -- No other field is spelled like that of the theme.
  simp (disch := decide) only [optional_put_of_ne]
  exact ⟨hbrand, htheme, hothers⟩

end UserData

end SiteTemplate
