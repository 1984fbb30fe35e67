import SiteTemplate.Proofs.PermittedValues
import SiteTemplate.Proofs.TemplateReading

/-!
# Values that conform to their declarations

`FieldDecl.Conforms` says what a declaration asks of a value, to any depth. The check of a value
looks at the declaration, at those of its members or items if the value has the type, and so on;
these visits carry the induction. Where all checks are possible, nothing is found exactly in the
values that conform, and the missing values are those of the visited declarations that ask for one.
-/

namespace SiteTemplate

namespace FieldDecl

/-- What a declaration asks of a value, to any depth. -/
inductive Conforms (engine : PatternEngine) : FieldDecl → Json → Prop
  | intro {f : FieldDecl} {value : Json}
    (given : f.required = true → value ≠ .null ∧ value ≠ .str "")
    (permitted : value ≠ .null → ∀ v ∈ f.validators, v.Permits engine value)
    (typed : value = .null ∨ f.type.Holds value)
    (members : ∀ ms fields, value = .obj ms → f.shape = some fields →
      ∀ e ∈ fields, Conforms engine e.2 ((Entries.get? ms e.1).getD .null))
    (items : ∀ items g, value = .arr items → f.itemShape = some g →
      ∀ item ∈ items, Conforms engine g item) : Conforms engine f value

/-- A declaration that is looked at, with its path and the value under it. -/
structure Visit where
  path : String
  decl : FieldDecl
  value : Json

namespace Visit

/-- The declarations of the value's members or items, if the value has the type. -/
def parts (x : Visit) : List Visit :=
  if x.decl.type.admits x.value then
    match x.value with
    | .obj ms => (x.decl.shape.getD []).map fun e =>
      ⟨x.path ++ "." ++ e.1, e.2, (Entries.get? ms e.1).getD .null⟩
    | .arr items => x.decl.itemShape.toList.flatMap fun g => items.zipIdx.map fun e =>
      ⟨x.path ++ "." ++ toString e.2, g, e.1⟩
    | _ => []
  else []

theorem decl_of_mem_parts {x y : Visit} (h : y ∈ x.parts) :
    (∃ fields, x.decl.shape = some fields ∧ ∃ e ∈ fields, e.2 = y.decl)
      ∨ x.decl.itemShape = some y.decl := by
  unfold parts at h
  split at h
  · split at h
    · obtain ⟨e, he, rfl⟩ := List.mem_map.1 h
      cases hshape : x.decl.shape with
      | none => simp [hshape] at he
      | some fields => exact .inl ⟨fields, rfl, e, by simpa [hshape] using he, rfl⟩
    · obtain ⟨g, hg, hy⟩ := List.mem_flatMap.1 h
      obtain ⟨e, -, rfl⟩ := List.mem_map.1 hy
      exact .inr (by simpa using hg)
    · cases h
  · cases h

theorem sizeOf_decl_lt {x y : Visit} (h : y ∈ x.parts) : sizeOf y.decl < sizeOf x.decl := by
  have hparts := decl_of_mem_parts h
  obtain ⟨path, ⟨key, type, required, default, validators, shape, itemShape⟩, value⟩ := x
  rcases hparts with ⟨fields, rfl, ⟨k, g⟩, he, rfl⟩ | rfl
  · have hlt := List.sizeOf_lt_of_mem he
    simp at hlt ⊢
    omega
  · simp
    omega

/-- Everything that is looked at from a declaration on, in order. -/
def all (x : Visit) : List Visit := x :: x.parts.attach.flatMap fun ⟨y, _⟩ => y.all
termination_by sizeOf x.decl
decreasing_by exact sizeOf_decl_lt ‹_›

theorem all_eq (x : Visit) : x.all = x :: x.parts.flatMap all := by
  rw [all]
  simp [List.flatMap_subtype]

/-- Induction over what is looked at, from the inside out. -/
@[elab_as_elim]
theorem induction {motive : Visit → Prop}
    (visit : ∀ x : Visit, (∀ y ∈ x.parts, motive y) → motive x) (x : Visit) : motive x := by
  induction hn : sizeOf x.decl using Nat.strongRecOn generalizing x with
  | _ n ih =>
    subst hn
    exact visit x fun y hy => ih _ (sizeOf_decl_lt hy) y rfl

variable (engine : PatternEngine)

def issues (x : Visit) : Except ImpossibleCheck (List FieldIssue) :=
  x.decl.issuesAt engine x.path x.value

/-- The issues of violated validators; null violates none. -/
def violations (x : Visit) : Except ImpossibleCheck (List FieldIssue) :=
  if x.value.isNull then .ok [] else validatorIssues engine x.path x.value x.decl.validators

/-- The issues of the parts, or that the value has not the type. -/
def inner (x : Visit) : Except ImpossibleCheck (List FieldIssue) :=
  if x.decl.type.admits x.value then joinIssues (x.parts.map (issues engine))
  else typeIssues x.path x.decl.type x.value

/-- A value is missing that is asked for. -/
def isMissing (x : Visit) : Bool := x.decl.required && isBlankValue x.value

end Visit

private theorem memberIssues_eq (engine : PatternEngine) (path : String) (ms : Members)
    (fields : List (String × FieldDecl)) :
    memberIssues engine path ms fields = joinIssues (fields.map fun e =>
      e.2.issuesAt engine (path ++ "." ++ e.1) ((Entries.get? ms e.1).getD .null)) := by
  induction fields with
  | nil => rfl
  | cons e fields ih => rw [memberIssues, ih, List.map_cons, joinIssues]

private theorem Visit.inner_eq (engine : PatternEngine) (path : String) (f : FieldDecl)
    (value : Json) :
    (⟨path, f, value⟩ : Visit).inner engine = if f.type.admits value then
        match value with
        | .obj ms => shapeIssues engine path ms f.shape
        | .arr items => itemShapeIssues engine path items f.itemShape
        | _ => pure []
      else typeIssues path f.type value := by
  cases hadmits : f.type.admits value with
  | false => simp [inner, hadmits]
  | true =>
    simp only [inner, parts, hadmits, if_true]
    cases value with
    | obj ms =>
      cases hshape : f.shape with
      | none => rfl
      | some fields =>
        simp [shapeIssues, memberIssues_eq, List.map_map, Function.comp_def, issues]
    | arr items =>
      cases hitem : f.itemShape with
      | none => rfl
      | some g => simp [itemShapeIssues, List.map_map, Function.comp_def, issues]
    | _ => rfl

private theorem Visit.issues_eq (engine : PatternEngine) (x : Visit) :
    x.issues engine = (do
      let own ← (do
        let missing ← .ok (requiredIssues x.path x.decl.required x.value)
        let violations ← x.violations engine
        pure (missing ++ violations))
      let inner ← x.inner engine
      pure (own ++ inner)) := by
  obtain ⟨path, ⟨key, type, required, default, validators, shape, itemShape⟩, value⟩ := x
  have hok {α β : Type} (a : α) (next : α → Except ImpossibleCheck β) :
      (Except.ok a >>= next) = next a := rfl
  simp only [issues, issuesAt, inner_eq, violations, bind_assoc, pure_bind, hok]
  cases value with
  | null => cases type.admits .null <;> rfl
  | obj ms => cases type.admits (.obj ms) <;> rfl
  | arr items => cases type.admits (.arr items) <;> rfl
  | bool b => cases type.admits (.bool b) <;> rfl
  | int n => cases type.admits (.int n) <;> rfl
  | float y => cases type.admits (.float y) <;> rfl
  | str s => cases type.admits (.str s) <;> rfl

/-- The outcome of a check that is possible: nothing is found exactly under a condition, the paths
of the missing values are the given ones, and an end is reached if the numbers fit. -/
structure Finds (r : Except ImpossibleCheck (List FieldIssue)) (clean : Prop)
    (missing : List String) (fit : Prop) : Prop where
  nil_iff : r = .ok [] ↔ clean
  missing_eq : ∀ issues, r = .ok issues →
    (issues.filter FieldIssue.isMissing).map FieldIssue.path = missing
  returns : fit → ∃ issues, r = .ok issues

namespace Finds

variable {r r' : Except ImpossibleCheck (List FieldIssue)} {clean clean' fit fit' : Prop}
  {missing missing' : List String}

theorem imp (h : Finds r clean missing fit) (hclean : clean ↔ clean') (hfit : fit' → fit) :
    Finds r clean' missing fit' :=
  ⟨h.nil_iff.trans hclean, h.missing_eq, fun hf => h.returns (hfit hf)⟩

theorem ofOk (issues : List FieldIssue) : Finds (.ok issues) (issues = [])
    ((issues.filter FieldIssue.isMissing).map FieldIssue.path) True where
  nil_iff := by simp
  missing_eq := by simp
  returns _ := ⟨issues, rfl⟩

/-- What is found one after the other. -/
theorem append (h : Finds r clean missing fit) (h' : Finds r' clean' missing' fit') :
    Finds (do let first ← r; let more ← r'; pure (first ++ more))
      (clean ∧ clean') (missing ++ missing') (fit ∧ fit') where
  nil_iff := by
    rw [← h.nil_iff, ← h'.nil_iff, bind_eq_ok_iff]
    constructor
    · rintro ⟨first, hfirst, hrest⟩
      obtain ⟨more, hmore, heq⟩ := bind_eq_ok_iff.1 hrest
      obtain ⟨rfl, rfl⟩ := List.append_eq_nil_iff.1 (Except.ok.inj heq)
      exact ⟨hfirst, hmore⟩
    · rintro ⟨hfirst, hmore⟩
      exact ⟨[], hfirst, by rw [hmore]; rfl⟩
  missing_eq issues hissues := by
    obtain ⟨first, hfirst, hrest⟩ := bind_eq_ok_iff.1 hissues
    obtain ⟨more, hmore, heq⟩ := bind_eq_ok_iff.1 hrest
    rw [← Except.ok.inj heq, List.filter_append, List.map_append, h.missing_eq _ hfirst,
      h'.missing_eq _ hmore]
  returns hfits := by
    obtain ⟨first, hfirst⟩ := h.returns hfits.1
    obtain ⟨more, hmore⟩ := h'.returns hfits.2
    exact ⟨first ++ more, by rw [hfirst, hmore]; rfl⟩

end Finds

private theorem isBlankValue_iff {value : Json} :
    isBlankValue value = true ↔ value = .null ∨ value = .str "" := by
  cases value <;> simp [isBlankValue]

private theorem isNull_iff {value : Json} : value.isNull = true ↔ value = .null := by
  cases value <;> simp [Json.isNull]

variable {engine : PatternEngine} {path : String} {value : Json} {f : FieldDecl}

private theorem finds_required (path : String) (required : Bool) (value : Json) :
    Finds (.ok (requiredIssues path required value))
      (required = true → value ≠ .null ∧ value ≠ .str "")
      (if required && isBlankValue value then [path] else []) True := by
  have hblank : (required = true → value ≠ .null ∧ value ≠ .str "") ↔
      ¬ (required && isBlankValue value) = true := by
    simp [isBlankValue_iff]
  rw [hblank]
  unfold requiredIssues
  cases required && isBlankValue value with
  | true => exact (Finds.ofOk _).imp (by simp) id
  | false => exact (Finds.ofOk []).imp (by simp) id

private theorem finds_validator {v : Validator} (h : v.IsPossible engine) :
    Finds ((v.check engine value).map fun x => (x.map fun y => ⟨path, .violation y⟩).toList)
      (v.Permits engine value) [] (v.limit.fits = true) where
  nil_iff := by
    rw [← Validator.check_eq_none_iff h]
    rcases v.check engine value with e | _ | x <;> simp [Except.map]
  missing_eq issues hissues := by
    rcases hx : v.check engine value with e | _ | x <;> rw [hx] at hissues <;> cases hissues <;> rfl
  returns hfits := by
    obtain ⟨x, hx⟩ := Validator.exists_check h hfits value
    exact ⟨_, by rw [hx]; rfl⟩

private theorem finds_validators {vs : List Validator} (h : ∀ v ∈ vs, v.IsPossible engine) :
    Finds (validatorIssues engine path value vs) (∀ v ∈ vs, v.Permits engine value) []
      (∀ v ∈ vs, v.limit.fits = true) := by
  induction vs with
  | nil => exact (Finds.ofOk []).imp (by simp) fun _ => trivial
  | cons v vs ih =>
    rw [List.forall_mem_cons] at h
    have hcons : validatorIssues engine path value (v :: vs) = (do
        let first ← (v.check engine value).map fun x =>
          (x.map fun y => (⟨path, .violation y⟩ : FieldIssue)).toList
        let more ← validatorIssues engine path value vs
        pure (first ++ more)) := by
      rw [validatorIssues]
      cases v.check engine value <;> rfl
    rw [hcons]
    exact ((finds_validator h.1).append (ih h.2)).imp (by rw [List.forall_mem_cons])
      List.forall_mem_cons.1

private theorem finds_join {α : Type} {xs : List α}
    {check : α → Except ImpossibleCheck (List FieldIssue)}
    {clean fit : α → Prop} {missing : α → List String}
    (h : ∀ x ∈ xs, Finds (check x) (clean x) (missing x) (fit x)) :
    Finds (joinIssues (xs.map check)) (∀ x ∈ xs, clean x) (xs.flatMap missing)
      (∀ x ∈ xs, fit x) := by
  induction xs with
  | nil => exact (Finds.ofOk []).imp (by simp) fun _ => trivial
  | cons x xs ih =>
    rw [List.forall_mem_cons] at h
    exact (h.1.append (ih h.2)).imp (by rw [List.forall_mem_cons]) List.forall_mem_cons.1

private theorem finds_type {t : FieldType} (h : t.admits value = false) :
    Finds (typeIssues path t value) False [] (value.fits = true) where
  nil_iff := by
    unfold typeIssues
    split <;> simp
  missing_eq issues hissues := by
    unfold typeIssues at hissues
    split at hissues
    · cases hissues
      rfl
    · cases hissues
  returns hfits := by
    refine ⟨[⟨path, .wrongType t value⟩], if_pos ?_⟩
    unfold FieldType.canComplain
    split <;> first | exact hfits | rfl

namespace Visit

variable {x : Visit}

private theorem conforms_iff : Conforms engine x.decl x.value ↔
    (x.decl.required = true → x.value ≠ .null ∧ x.value ≠ .str "")
    ∧ (x.value ≠ .null → ∀ v ∈ x.decl.validators, v.Permits engine x.value)
    ∧ x.decl.type.admits x.value = true ∧ ∀ y ∈ x.parts, Conforms engine y.decl y.value := by
  obtain ⟨path, f, value⟩ := x
  constructor
  · rintro ⟨given, permitted, typed, members, items⟩
    have hadmits : f.type.admits value = true := FieldType.admits_iff.2 typed
    refine ⟨given, permitted, hadmits, fun y hy => ?_⟩
    simp only [parts, hadmits, if_true] at hy
    cases value with
    | obj ms =>
      obtain ⟨e, he, rfl⟩ := List.mem_map.1 hy
      cases hshape : f.shape with
      | none => simp [hshape] at he
      | some fields => exact members ms fields rfl hshape e (by simpa [hshape] using he)
    | arr vs =>
      obtain ⟨g, hg, hy⟩ := List.mem_flatMap.1 hy
      obtain ⟨e, he, rfl⟩ := List.mem_map.1 hy
      exact items vs g rfl (by simpa using hg) e.1 (List.fst_mem_of_mem_zipIdx he)
    | _ => cases hy
  · rintro ⟨given, permitted, hadmits, hparts⟩
    simp only [parts, hadmits, if_true] at hparts
    refine ⟨given, permitted, FieldType.admits_iff.1 hadmits, ?_, ?_⟩
    · rintro ms fields rfl hshape e he
      have hmem : e ∈ f.shape.getD [] := by
        rw [hshape]
        exact he
      exact hparts ⟨_, e.2, _⟩ (List.mem_map.2 ⟨e, hmem, rfl⟩)
    · rintro vs g rfl hitem v hv
      obtain ⟨i, hi⟩ := List.mem_iff_getElem?.1 hv
      exact hparts ⟨_, g, v⟩ (List.mem_flatMap.2
        ⟨g, Option.mem_toList.2 hitem, List.mem_map.2
          ⟨(v, i), List.mk_mem_zipIdx_iff_getElem?.2 hi, rfl⟩⟩)

/-- No whole number of the value, nor of a limit in the declaration, has too many digits. -/
def Fits (x : Visit) : Prop :=
  x.value.fits = true ∧ x.decl.All fun f => ∀ v ∈ f.validators, v.limit.fits = true

/-- What is asked of all declarations is asked of those inside. -/
private theorem all_of_mem_parts {P : FieldDecl → Prop} {y : Visit} (h : x.decl.All P)
    (hy : y ∈ x.parts) : y.decl.All P := by
  obtain ⟨-, hshape, hitem⟩ := all_iff.1 h
  rcases decl_of_mem_parts hy with ⟨fields, hfields, e, he, heq⟩ | hg
  · rw [← heq]
    exact hshape fields hfields e he
  · exact hitem _ hg

private theorem fits_of_mem_parts {y : Visit} (h : x.Fits) (hy : y ∈ x.parts) : y.Fits := by
  refine ⟨?_, all_of_mem_parts h.2 hy⟩
  obtain ⟨path, f, value⟩ := x
  have hvalue : value.fits = true := h.1
  simp only [parts] at hy
  split at hy
  · split at hy
    · obtain ⟨e, -, rfl⟩ := List.mem_map.1 hy
      exact Validator.fits_member e.1 hvalue
    · obtain ⟨g, -, hy⟩ := List.mem_flatMap.1 hy
      obtain ⟨e, he, rfl⟩ := List.mem_map.1 hy
      exact Json.fits_arr.1 hvalue e.1 (List.fst_mem_of_mem_zipIdx he)
    · cases hy
  · cases hy

private theorem finds_violations (h : ∀ v ∈ x.decl.validators, v.IsPossible engine) :
    Finds (x.violations engine)
      (x.value ≠ .null → ∀ v ∈ x.decl.validators, v.Permits engine x.value) []
      (∀ v ∈ x.decl.validators, v.limit.fits = true) := by
  unfold violations
  cases hnull : x.value.isNull with
  | true => exact (Finds.ofOk []).imp (by simp [isNull_iff.1 hnull]) fun _ => trivial
  | false =>
    have hvalue : x.value ≠ .null := fun he => by simp [he, Json.isNull] at hnull
    exact (finds_validators h).imp (by simp [hvalue]) id

/-- Where all checks are possible, the check finds nothing exactly in a value that conforms, and
misses exactly the values of the visits that ask for one. -/
theorem finds (h : x.decl.All fun f => ∀ v ∈ f.validators, v.IsPossible engine) :
    Finds (x.issues engine) (Conforms engine x.decl x.value)
      ((x.all.filter isMissing).map Visit.path) x.Fits := by
  induction x using Visit.induction with
  | visit x ih =>
    have hinner : Finds (x.inner engine)
        (x.decl.type.admits x.value = true ∧ ∀ y ∈ x.parts, Conforms engine y.decl y.value)
        (((x.parts.flatMap all).filter isMissing).map Visit.path) x.Fits := by
      unfold inner
      cases hadmits : x.decl.type.admits x.value with
      | true =>
        have hparts := finds_join fun y hy => ih y hy (all_of_mem_parts h hy)
        rw [List.filter_flatMap, List.map_flatMap]
        exact hparts.imp (by simp) fun hfits y hy => fits_of_mem_parts hfits hy
      | false =>
        have hnone : x.parts = [] := by simp [parts, hadmits]
        rw [hnone]
        exact (finds_type hadmits).imp (by simp) (·.1)
    have hmissing : (x.all.filter isMissing).map Visit.path =
        (if x.decl.required && isBlankValue x.value then [x.path] else []) ++ []
          ++ ((x.parts.flatMap all).filter isMissing).map Visit.path := by
      rw [all_eq, List.filter_cons]
      unfold isMissing
      cases x.decl.required && isBlankValue x.value <;> simp
    rw [issues_eq, hmissing]
    refine (((finds_required x.path x.decl.required x.value).append
      (finds_violations (all_iff.1 h).1)).append hinner).imp ?_ fun hfits => ?_
    · rw [conforms_iff, and_assoc]
    · exact ⟨⟨trivial, (all_iff.1 hfits.2).1⟩, hfits⟩

end Visit

/-- The dotted paths of the visited declarations that ask for a value which is null or empty. -/
def missingPaths (f : FieldDecl) (value : Json) (path : String) : List String :=
  ((⟨if path = "" then f.key else path ++ "." ++ f.key, f, value⟩ : Visit).all.filter
    Visit.isMissing).map Visit.path

/-- Where all checks are possible, the check of a value finds nothing exactly if the value conforms
to the declaration. What it misses are exactly the values of the visited declarations that ask for
one, about each of which it says so. It ends unless a whole number of the value or of a limit has
too many digits to be shown. -/
theorem issues_decide_conformance
    (h : f.All fun g => ∀ v ∈ g.validators, v.IsPossible engine) (value : Json) (path : String) :
    (f.issues engine value path = .ok [] ↔ f.Conforms engine value)
    ∧ (∀ issues, f.issues engine value path = .ok issues →
      (issues.map (·.message) = [] ↔ f.Conforms engine value)
      ∧ (issues.filter (·.isMissing)).map (·.path) = f.missingPaths value path
      ∧ ∀ p ∈ f.missingPaths value path,
        "Field " ++ p ++ " is required" ∈ issues.map (·.message))
    ∧ (value.fits = true → (f.All fun g => ∀ v ∈ g.validators, v.limit.fits = true) →
      ∃ issues, f.issues engine value path = .ok issues) := by
  have hfinds : Finds (f.issues engine value path) (f.Conforms engine value)
      (f.missingPaths value path) _ :=
    Visit.finds (x := ⟨if path = "" then f.key else path ++ "." ++ f.key, f, value⟩) h
  refine ⟨hfinds.nil_iff, fun issues hissues => ⟨?_, hfinds.missing_eq issues hissues, ?_⟩,
    fun hvalue hlimits => hfinds.returns ⟨hvalue, hlimits⟩⟩
  · rw [List.map_eq_nil_iff, ← hfinds.nil_iff, hissues, Except.ok.injEq]
  · intro p hp
    rw [← hfinds.missing_eq issues hissues] at hp
    obtain ⟨i, hi, rfl⟩ := List.mem_map.1 hp
    obtain ⟨hmem, hrequired⟩ := List.mem_filter.1 hi
    refine List.mem_map.2 ⟨i, hmem, ?_⟩
    obtain ⟨path, problem⟩ := i
    cases problem with
    | required => rfl
    | _ => cases hrequired

/-- A title of at most ten characters. -/
def titleField : FieldDecl :=
  { key := "title", required := true, validators := [⟨.maxLength, .int 10⟩] }

/-- A price that is not negative. -/
def priceField : FieldDecl :=
  { key := "price", type := .number, validators := [⟨.range, .obj [("min", .int 0)]⟩] }

/-- A list of products with titles and prices. -/
def productList : FieldDecl :=
  { key := "products", type := .list, itemShape := some
      { key := "product", type := .object
        shape := some [("title", titleField), ("price", priceField)] } }

/-- The second product has an empty title and a negative price. -/
theorem issues_decide_conformance_products :
    let value : Json := .arr [.obj [("title", "Tea"), ("price", .int 3)],
      .obj [("title", ""), ("price", .int (-1))]]
    ∃ issues, productList.issues Pattern.engine value "shop" = .ok issues
      ∧ (issues.filter (·.isMissing)).map (·.path) = ["shop.products.1.title"]
      ∧ "Field shop.products.1.title is required" ∈ issues.map (·.message)
      ∧ ¬ productList.Conforms Pattern.engine value := by
  intro value
  have hsmall (n : Int) (hn : n.natAbs ≤ 10) : (Json.int n).fits = true :=
    Json.fits_int.2 (hn.trans_lt (by decide +kernel))
  have hall {P : FieldDecl → Prop} (htitle : P titleField) (hprice : P priceField)
      (hproduct : ∀ f : FieldDecl, f.validators = [] → P f) : productList.All P := by
    have htitle : titleField.All P := ⟨htitle, nofun, nofun⟩
    have hprice : priceField.All P := ⟨hprice, nofun, nofun⟩
    refine ⟨hproduct _ rfl, nofun, fun g hg => ?_⟩
    obtain rfl := Option.some.inj hg
    refine ⟨hproduct _ rfl, fun fields hfields => ?_, nofun⟩
    obtain rfl := Option.some.inj hfields
    exact List.forall_mem_cons.2 ⟨htitle, List.forall_mem_singleton.2 hprice⟩
  have hpossible : productList.All fun g => ∀ v ∈ g.validators, v.IsPossible Pattern.engine := by
    refine hall (by simp [titleField, Validator.IsPossible]) ?_ fun f hf => by simp [hf]
    refine List.forall_mem_singleton.2 ?_
    rintro range h key - bound hbound
    cases h
    obtain ⟨-, rfl⟩ := Prod.mk.inj (List.mem_singleton.1 (Entries.mem_of_get?_eq_some hbound))
    exact .inr rfl
  have hlimits : productList.All fun g => ∀ v ∈ g.validators, v.limit.fits = true := by
    refine hall ?_ ?_ fun f hf => by simp [hf]
    · exact List.forall_mem_singleton.2 (hsmall 10 (by decide))
    · exact List.forall_mem_singleton.2
        (Json.fits_obj.2 (List.forall_mem_singleton.2 (hsmall 0 (by decide))))
  have hvalue : value.fits = true := by
    have htext (s : String) : (Json.str s).fits = true := rfl
    simp [value, Json.fits_arr, Json.fits_obj, htext, hsmall]
  obtain ⟨-, hfound, hreturns⟩ := issues_decide_conformance hpossible value "shop"
  obtain ⟨issues, hissues⟩ := hreturns hvalue hlimits
  obtain ⟨hmessages, hmissing, hrequired⟩ := hfound issues hissues
  have hpath : productList.missingPaths value "shop" = ["shop.products.1.title"] := by
    simp [missingPaths, Visit.all_eq, Visit.parts, Visit.isMissing, isBlankValue, productList,
      titleField, priceField, value, FieldType.admits, FieldType.accepts, Json.isNull,
      Json.isNumber, Entries.get?, List.lookup_cons]
    rfl
  rw [hpath] at hmissing hrequired
  have hmem := hrequired _ (List.mem_singleton.2 rfl)
  exact ⟨issues, hissues, hmissing, hmem, fun h => List.ne_nil_of_mem hmem (hmessages.2 h)⟩

end FieldDecl

end SiteTemplate
