import SiteTemplate.Theme.Reskin

/-!
# Classes that a skin keeps

A text in a skin is put together from its own delimiters and what becomes of the runs between them.
An exchanged run may bring delimiters along, but then the text has more of them than before; so a
text stays as it is exactly if each of its runs does, that is, if no utility in it is exchanged for
another one.
-/

namespace SiteTemplate.Skin

open Text

variable {s : Skin} {cs run : List Char} {more : List (Char × List Char)}

/-- Characters none of which is a delimiter. -/
def IsRun (cs : List Char) : Prop := ∀ c ∈ cs, isDelimiter c = false

/-- The runs between the delimiters of a text. -/
def runsOf (cs : List Char) : List (List Char) := (runs cs).1 :: (runs cs).2.map (·.2)

theorem isRun_of_any (h : cs.any isDelimiter = false) : IsRun cs := by
  simpa [IsRun] using h

private theorem runs_run_append (h : IsRun run) (cs : List Char) :
    runs (run ++ cs) = (run ++ (runs cs).1, (runs cs).2) := by
  induction run with
  | nil => rfl
  | cons c run ih =>
    have hc : isDelimiter c = false := h c List.mem_cons_self
    have hrest := ih fun x hx => h x (List.mem_cons_of_mem c hx)
    simp only [List.cons_append, runs, hrest, hc, Bool.false_eq_true, if_false]

theorem runs_eq_of_isRun (h : IsRun run) : runs run = (run, []) := by
  have hrun := runs_run_append h []
  rwa [List.append_nil, runs, List.append_nil] at hrun

private theorem runs_append_flatMap (hrun : IsRun run)
    (hmore : ∀ e ∈ more, isDelimiter e.1 = true ∧ IsRun e.2) :
    runs (run ++ more.flatMap fun e => e.1 :: e.2) = (run, more) := by
  induction more generalizing run with
  | nil => simpa using runs_eq_of_isRun hrun
  | cons e more ih =>
    obtain ⟨hdelimiter, he⟩ := hmore e List.mem_cons_self
    have hrest := ih he fun x hx => hmore x (List.mem_cons_of_mem e hx)
    rw [List.flatMap_cons, List.cons_append, runs_append_delimiter hdelimiter, hrest,
      runs_eq_of_isRun hrun, List.nil_append]

theorem append_flatMap_runs (cs : List Char) :
    (runs cs).1 ++ (runs cs).2.flatMap (fun e => e.1 :: e.2) = cs := by
  induction cs with
  | nil => rfl
  | cons c cs ih =>
    cases hc : isDelimiter c with
    | true => simpa [runs, hc] using ih
    | false => simpa [runs, hc] using ih

private theorem isRun_runs (cs : List Char) :
    IsRun (runs cs).1 ∧ ∀ e ∈ (runs cs).2, isDelimiter e.1 = true ∧ IsRun e.2 := by
  induction cs with
  | nil => simp [runs, IsRun]
  | cons c cs ih =>
    obtain ⟨hrun, hmore⟩ := ih
    cases hc : isDelimiter c with
    | true =>
      simp only [runs, hc, if_true, List.forall_mem_cons]
      exact ⟨fun x hx => absurd hx List.not_mem_nil, ⟨trivial, hrun⟩, hmore⟩
    | false =>
      simp only [runs, hc, Bool.false_eq_true, if_false]
      exact ⟨List.forall_mem_cons.2 ⟨hc, hrun⟩, hmore⟩

private theorem countP_isDelimiter (cs : List Char) :
    cs.countP isDelimiter = (runs cs).2.length := by
  induction cs with
  | nil => rfl
  | cons c cs ih =>
    cases hc : isDelimiter c with
    | true => simp [runs, hc, ih]
    | false => simp [runs, hc, ih]

theorem isRun_of_countP_eq_zero (h : cs.countP isDelimiter = 0) : IsRun cs := by
  intro c hc
  simpa using List.countP_eq_zero.1 h c hc

theorem length_le_countP (h : ∀ e ∈ more, isDelimiter e.1 = true) (g : List Char → List Char) :
    more.length ≤ (more.flatMap fun e => e.1 :: g e.2).countP isDelimiter := by
  induction more with
  | nil => exact Nat.le_refl _
  | cons e more ih =>
    rw [List.forall_mem_cons] at h
    have hrest := ih h.2
    simp only [List.flatMap_cons, List.countP_append, List.countP_cons, h.1, if_true,
      List.length_cons]
    omega

/-- Where runs are replaced and there are no more delimiters than before, the replacements have
none. -/
theorem isRun_of_countP_le (h : ∀ e ∈ more, isDelimiter e.1 = true) (g : List Char → List Char)
    (hcount : (more.flatMap fun e => e.1 :: g e.2).countP isDelimiter ≤ more.length) :
    ∀ e ∈ more, IsRun (g e.2) := by
  induction more with
  | nil => simp
  | cons e more ih =>
    rw [List.forall_mem_cons] at h
    have hrest := length_le_countP h.2 g
    simp only [List.flatMap_cons, List.countP_append, List.countP_cons, h.1, if_true,
      List.length_cons] at hcount
    have hhead : IsRun (g e.2) := isRun_of_countP_eq_zero (by omega)
    exact List.forall_mem_cons.2 ⟨hhead, ih h.2 (by omega)⟩

private theorem replace_runs_eq_self_iff (g : List Char → List Char) (cs : List Char) :
    g (runs cs).1 ++ (runs cs).2.flatMap (fun e => e.1 :: g e.2) = cs
      ↔ ∀ run ∈ runsOf cs, g run = run := by
  obtain ⟨hrun, hmore⟩ := isRun_runs cs
  have hdelimiters : ∀ e ∈ (runs cs).2, isDelimiter e.1 = true := fun e he => (hmore e he).1
  simp only [runsOf, List.forall_mem_cons, List.forall_mem_map]
  constructor
  · intro h
    have hcount := congrArg (List.countP isDelimiter) h
    have hleast := length_le_countP hdelimiters g
    rw [List.countP_append, countP_isDelimiter cs] at hcount
    have hfirst : IsRun (g (runs cs).1) := isRun_of_countP_eq_zero (by omega)
    have hrest := isRun_of_countP_le hdelimiters g (by omega)
    -- So the replacements are the runs of the text, and therefore the same as those replaced.
    have hmap : ∀ e ∈ (runs cs).2.map fun e => (e.1, g e.2),
        isDelimiter e.1 = true ∧ IsRun e.2 := by
      rw [List.forall_mem_map]
      exact fun e he => ⟨hdelimiters e he, hrest e he⟩
    have hreplaced := runs_append_flatMap hfirst hmap
    rw [List.flatMap_map, h] at hreplaced
    refine ⟨(congrArg Prod.fst hreplaced).symm, fun e he => ?_⟩
    have hsame : (runs cs).2.map id = (runs cs).2.map fun e => (e.1, g e.2) := by
      rw [List.map_id]
      exact congrArg Prod.snd hreplaced
    exact (congrArg Prod.snd (List.map_inj_left.1 hsame e he)).symm
  · rintro ⟨hfirst, hrest⟩
    have hsame : (runs cs).2.flatMap (fun e => e.1 :: g e.2)
        = (runs cs).2.flatMap fun e => e.1 :: e.2 :=
      congrArg List.flatten (List.map_congr_left fun e he => by rw [hrest e he])
    rw [hfirst, hsame, append_flatMap_runs]

private theorem token_eq_self_iff : s.token run = run ↔
    ∀ v, s.utility? (ClassToken.splitVariants run).2 = some v →
      v = (ClassToken.splitVariants run).2 := by
  have hsplit := ClassToken.splitVariants_append run
  unfold token
  cases hutility : s.utility? (ClassToken.splitVariants run).2 with
  | none => simp [hutility]
  | some v =>
    simp only [hutility, Option.some.injEq, forall_eq']
    constructor
    · intro h
      exact List.append_cancel_left (h.trans hsplit.symm)
    · intro h
      rw [h, hsplit]

/-- No utility in the text is exchanged for another one. -/
def Keeps (s : Skin) (cs : List Char) : Prop :=
  ∀ run ∈ runsOf cs, ∀ v, s.utility? (ClassToken.splitVariants run).2 = some v →
    v = (ClassToken.splitVariants run).2

/-- A text stays as it is exactly if no utility in it is exchanged for another one. -/
theorem wear_eq_self_iff : s.wear cs = cs ↔ s.Keeps cs := by
  have hruns := replace_runs_eq_self_iff s.token cs
  simp only [token_eq_self_iff] at hruns
  exact hruns

theorem wear_append_delimiter {d : Char} (h : isDelimiter d = true) (a b : List Char) :
    s.wear (a ++ d :: b) = s.wear a ++ d :: s.wear b := by
  simp only [wear, runs_append_delimiter h, List.flatMap_append, List.flatMap_cons,
    List.append_assoc, List.cons_append]

private theorem runsOf_append_delimiter {d : Char} (h : isDelimiter d = true) (a b : List Char) :
    runsOf (a ++ d :: b) = runsOf a ++ runsOf b := by
  simp [runsOf, runs_append_delimiter h]

private theorem keeps_append_delimiter {d : Char} (h : isDelimiter d = true) {a b : List Char} :
    s.Keeps (a ++ d :: b) ↔ s.Keeps a ∧ s.Keeps b := by
  simp only [Keeps, runsOf_append_delimiter h, List.forall_mem_append]

theorem keeps_of_isRun (h : IsRun run) : s.Keeps run ↔
    ∀ v, s.utility? (ClassToken.splitVariants run).2 = some v →
      v = (ClassToken.splitVariants run).2 := by
  simp [Keeps, runsOf, runs_eq_of_isRun h]

private theorem keeps_nil : s.Keeps [] := by
  rw [keeps_of_isRun (by simp [IsRun])]
  intro v hv
  cases hv

/-- What is kept stays where it is between delimiters, whatever becomes of the text around it. -/
theorem wear_between (hcs : s.Keeps cs) {d d' : Char} (hd : isDelimiter d = true)
    (hd' : isDelimiter d' = true) (a b : List Char) :
    s.wear (a ++ d :: (cs ++ d' :: b)) = s.wear a ++ d :: (cs ++ d' :: s.wear b) := by
  rw [wear_append_delimiter hd, wear_append_delimiter hd', wear_eq_self_iff.2 hcs]

/-- A class list is kept if its classes are. -/
theorem keeps_intercalate {words : List String} :
    s.Keeps (" ".intercalate words).toList ↔ ∀ w ∈ words, s.Keeps w.toList := by
  induction words with
  | nil => simp [keeps_nil]
  | cons w words ih =>
    cases words with
    | nil => simp
    | cons x words =>
      rw [String.intercalate_cons_cons, String.toList_append, String.toList_append,
        List.append_assoc]
      have hblank : isDelimiter ' ' = true := by decide
      change s.Keeps (w.toList ++ ' ' :: (" ".intercalate (x :: words)).toList) ↔ _
      simp only [keeps_append_delimiter hblank, ih, List.forall_mem_cons]

end SiteTemplate.Skin
