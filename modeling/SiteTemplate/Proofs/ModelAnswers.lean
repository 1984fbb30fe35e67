import SiteTemplate.Project.Processor
import SiteTemplate.Proofs.Rendering

/-!
# What the content model can change

An answer of the content model counts for a placeholder only if it is the answer to the prompt of
that placeholder and is accepted. Where no answer counts, the value is the one that the fallback
gives without the model, unless what is told about the answer cannot be printed: that breaks the
resolution off. A run all of whose requests go without an accepted answer, and none of which breaks
off, is therefore the run with the model switched off: files, manifest and validation are the same.
-/

namespace SiteTemplate

/-- The same data with the content model switched off. -/
def UserData.withoutModel (d : UserData) : UserData := { d with useAI := false }

def Request.withoutModel (q : Request) : Request := { q with userData := q.userData.withoutModel }

@[simp] theorem UserData.useAI_withoutModel (d : UserData) : d.withoutModel.useAI = false := rfl

namespace Resolver

variable {r : Resolver} {q : Request} {v : String}

/-- The value that a cleaned answer stands for. -/
def valueOf : Placeholder.Kind → String → String
  | .tw, cleaned => ClassToken.merge [cleaned]
  | _, cleaned => cleaned

/-- The model is asked, and its answer to the prompt of the request is accepted and stands for the
value. -/
def AnswersWith (r : Resolver) (q : Request) (v : String) : Prop :=
  ∃ model answer, r.model = some model ∧ r.mayAsk q.userData = true
    ∧ model (r.prompt q) = .text answer
    ∧ Answer.accepts q.placeholder.kind (Answer.clean answer) = true
    ∧ v = valueOf q.placeholder.kind (Answer.clean answer)

theorem acceptedValue?_eq_some_iff {k : Placeholder.Kind} {answer : String} :
    acceptedValue? k answer = some v ↔
      Answer.accepts k (Answer.clean answer) = true ∧ v = valueOf k (Answer.clean answer) := by
  have hvalue : acceptedValue? k answer
      = if Answer.accepts k (Answer.clean answer) = true
        then some (valueOf k (Answer.clean answer)) else none := by
    cases k <;> rfl
  rw [hvalue, Option.ite_none_right_eq_some, Option.some.injEq, eq_comm (a := v)]

private theorem not_answersWith_of_mayAsk_false (h : r.mayAsk q.userData = false) :
    ¬ r.AnswersWith q v := by
  rintro ⟨model, answer, -, hask, -⟩
  rw [h] at hask
  cases hask

theorem askStep_of_answersWith (h : r.AnswersWith q v) : r.askStep q = .resolved ⟨v, "ai"⟩ := by
  obtain ⟨model, answer, hmodel, hask, hanswer, haccepted⟩ := h
  rw [← acceptedValue?_eq_some_iff] at haccepted
  simp only [askStep, hmodel, hask, hanswer, haccepted, if_true]

/-- Without an accepted answer the step resolves nothing, whatever the model does. -/
theorem askStep_ne_resolved (h : ∀ v, ¬ r.AnswersWith q v) (res : Resolution) :
    r.askStep q ≠ .resolved res := by
  have hopen (notice : String) : r.leaveOpen notice ≠ .resolved res := by
    unfold leaveOpen
    split <;> simp
  cases hmodel : r.model with
  | none => simp [askStep, hmodel]
  | some model =>
    cases hask : r.mayAsk q.userData with
    | false => simp [askStep, hmodel, hask]
    | true =>
      cases hanswer : model (r.prompt q) with
      | text answer =>
        cases haccepted : acceptedValue? q.placeholder.kind answer with
        | some v =>
          have hvalue := acceptedValue?_eq_some_iff.mp haccepted
          exact absurd ⟨model, answer, hmodel, hask, hanswer, hvalue⟩ (h v)
        | none => simp [askStep, hmodel, hask, hanswer, haccepted, hopen]
      | unsuccessful error => simp [askStep, hmodel, hask, hanswer, hopen]
      | timedOut => simp [askStep, hmodel, hask, hanswer, hopen]
      | cancelled => simp [askStep, hmodel, hask, hanswer, hopen]
      | raised message => simp [askStep, hmodel, hask, hanswer]

private theorem askStep_of_mayAsk_false (h : r.mayAsk q.userData = false) :
    r.askStep q = .unresolved := by
  cases hmodel : r.model <;> simp [askStep, hmodel, h]

/-- The request goes without an accepted answer, and what is told about that can be printed. -/
def Unanswered (r : Resolver) (q : Request) : Prop :=
  (∀ v, ¬ r.AnswersWith q v) ∧ ∀ fault, ¬ r.BreaksOff q r.askStep fault

theorem unanswered_of_mayAsk_false (h : r.mayAsk q.userData = false) : r.Unanswered q := by
  refine ⟨fun v => not_answersWith_of_mayAsk_false h, ?_⟩
  rintro fault ⟨name, message, hstep, -⟩
  rw [askStep_of_mayAsk_false h] at hstep
  cases hstep

/-- Without an accepted answer the fallback alone decides. -/
theorem resolveRequest_of_unanswered (h : r.Unanswered q) :
    r.resolveRequest r.defaultSteps q = r.resolveRequest [r.fallbackStep] q := by
  rcases r.passesOn_or_breaksOff (askStep_ne_resolved h.1) with hpasses | ⟨fault, hbreaks⟩
  · exact resolveRequest_of_passesOn hpasses _
  · exact absurd hbreaks (h.2 fault)

variable {d : UserData} {filled : Members} {theme : Option Theme}

end Resolver

namespace Processor

variable {p : Processor} {template : Supplied Template} {data off : Supplied UserData}
  {generatedAt : String}

def Setting.withoutModel (s : Setting) : Setting := { s with data := s.data.withoutModel }

def request (p : Processor) (s : Setting) (x : Placeholder) : Request :=
  p.resolver.request x s.data "" s.filled.toJson (some s.theme)

/-- A request that is made for a file; a file in Base64 has no placeholders. -/
def Setting.Requests (p : Processor) (s : Setting) (f : SourceFile) (q : Request) : Prop :=
  f.encoding = .utf8 ∧ ∃ x ∈ Placeholder.inText f.content f.path, q = p.request s x

/-- A request that is made in a run. -/
def Requests (p : Processor) (template : Supplied Template) (data : Supplied UserData)
    (q : Request) : Prop :=
  ∃ t d s skipped f, acceptTemplate template = .ok t ∧ readUserData t.key data = .ok d
    ∧ p.setting t (p.normalized d).1 = .ok (s, skipped)
    ∧ f ∈ t.initialVersion.sourceFiles ∧ s.Requests p f q

/-- A run, stage by stage. -/
theorem runRead_eq_bind (p : Processor) (t : Template) (d : UserData) (generatedAt : String) :
    p.runRead t d generatedAt = (p.tell (p.themeNotices d)).bind fun _ =>
      ((p.setting t (p.normalized d).1).mapError .failed).bind fun set =>
      (p.tell (FilledSlots.notices p.filler t.initialVersion.slots
        (p.normalized d).1)).bind fun _ =>
      ((t.initialVersion.sourceFiles.mapM (p.processFile set.1)).mapError .failed).bind fun made =>
      (p.tell (p.rules.notices false (made.map (·.1)) t.initialVersion.constraints)).bind fun _ =>
      .ok (p.assemble t set.1 made ((p.normalized d).2 ++ set.2) generatedAt) := by
  unfold runRead normalize
  cases p.tell (p.themeNotices d) <;> rfl

theorem run_eq_bind : p.run template data generatedAt
    = ((acceptTemplate template).mapError .failed).bind fun t =>
      (p.tell (p.openingNotices t)).bind fun _ =>
      ((readUserData t.key data).mapError .failed).bind fun d =>
      p.runRead t d generatedAt := rfl

/-- The key of the template is only used to report faults. -/
theorem readUserData_of_readUserData {key other : String} {d : UserData}
    (h : readUserData key data = .ok d) : readUserData other data = .ok d := by
  cases data with
  | record d' => exact h
  | raw v =>
    by_cases hv : v = .null
    · subst hv
      exact h
    · simp only [readUserData] at h ⊢
      cases hread : (UserData.read v : Except (List Fault) UserData) with
      | ok d' =>
        rw [hread] at h
        exact h
      | error faults =>
        rw [hread] at h
        cases h

theorem data_of_setting {t : Template} {d : UserData} {s : Setting} {skipped : List String}
    (h : p.setting t d = .ok (s, skipped)) : s.data = d := by
  obtain ⟨theme, -, rfl⟩ := setting_eq_ok_iff.1 h
  rfl

/-- Settings under which the content model is asked. -/
def askingSettings : Settings := { ai := { enabled := true, apiKey := "sk-test" } }

end Processor

end SiteTemplate
