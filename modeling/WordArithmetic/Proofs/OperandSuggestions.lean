import WordArithmetic.Proofs.LeftmostFaults
import WordArithmetic.Proofs.ReductionTraces
import WordArithmetic.Proofs.Suggestions

namespace WordArithmetic

/-- A step that cannot be taken is at fault for its arithmetic. -/
theorem Reduction.ofSteps_error_cases {value : Value} {steps : List Step} {fault : Fault}
    (h : (ofSteps value steps).result = .error fault) :
    ∃ step ∈ steps, ∃ cause, fault = .atWord step.position cause ∧
      (cause = .divisionByZero ∨ cause = .outOfRange) := by
  have hreduced := reduced value steps
  generalize ofSteps value steps = reduction at h hreduced
  cases hreduced with
  | through => cases h
  | stopped hk _ hstep =>
    cases h
    exact ⟨_, List.mem_of_getElem? hk, _, rfl, Operator.apply_error_cases hstep⟩

/-- A sentence fails when it is analyzed or else when it is computed. -/
theorem evaluate_error_cases {sentence : Text} {fault : Fault}
    (h : evaluate sentence = .error fault) :
    (Notes.analyze id {} (tokenize sentence)).result = .error fault ∨
      ∃ e, (Notes.analyze id {} (tokenize sentence)).result = .ok e ∧ e.reduce = .error fault := by
  rw [evaluate_eq] at h
  cases he : (Notes.analyze id {} (tokenize sentence)).result with
  | error other =>
    rw [he] at h
    cases h
    exact .inl rfl
  | ok e =>
    rw [he, Except.bind] at h
    cases hv : e.reduce with
    | error other =>
      rw [hv] at h
      cases h
      exact .inr ⟨e, rfl, hv⟩
    | ok v =>
      rw [hv] at h
      cases h

/-- Only an operand that names no number may be misspelled. -/
theorem Notes.analyze_no_suggestion {tokens : List Token} {fault : Fault}
    (h : (Notes.analyze id {} tokens).result = .error fault)
    (hcause : ∀ text, fault.cause ≠ .notANumber text) : fault.suggestion = none := by
  obtain ⟨result, read, hread⟩ := Token.exists_analyzed id tokens
  rw [hread.analysis.1] at h
  cases hread with
  | nothing => cases h; rfl
  | @fault i token cause =>
    cases h
    cases cause with
    | notANumber text => exact absurd rfl (hcause text)
    | _ => rfl
  | expression => cases h

/-- The operand stands in the sentence, and what it passes over decides on the suggestion. -/
theorem suggestion_of_misread {sentence text : Text} {fault : Fault}
    (h : evaluate sentence = .error fault) (hcause : fault.cause = .notANumber text) :
    (∃ place, fault.position = some place ∧ ⟨.operand text, place⟩ ∈ tokenize sentence) ∧
      fault.suggestion = (Numeral.unknownWords text).getLast?.bind Correction.suggestion := by
  rcases evaluate_error_cases h with hanalysis | ⟨e, _, hreduction⟩
  · obtain ⟨before, place, after, htokens, hposition, _⟩ := Notes.analyze_misread hanalysis hcause
    refine ⟨⟨place, hposition, by simp [htokens]⟩, ?_⟩
    obtain ⟨place, _, hsuggestion⟩ := Notes.analyze_suggestion hanalysis hcause
    rw [hsuggestion]
    cases (Numeral.unknownWords text).getLast? <;> rfl
  · obtain ⟨step, _, cause, rfl, hcauses⟩ := Reduction.ofSteps_error_cases hreduction
    change cause = _ at hcause
    rw [hcause] at hcauses
    simp at hcauses

/-- For an operand that names no number the last word that it passes over decides on the suggestion,
and there is none if it passes over no word. Any other sentence that fails with the same operand
fails with the same suggestion, whatever goes before it, and no other fault comes with one. -/
theorem suggestion_is_of_the_failing_operand {sentence : Text} {fault : Fault}
    (h : evaluate sentence = .error fault) :
    (∀ text, fault.cause = .notANumber text →
      (∃ place, fault.position = some place ∧ ⟨.operand text, place⟩ ∈ tokenize sentence) ∧
      (Numeral.unknownWords text = [] → fault.suggestion = none) ∧
      (∀ hne : Numeral.unknownWords text ≠ [], fault.suggestion =
        Correction.nearest Correction.vocabulary ((Numeral.unknownWords text).getLast hne)) ∧
      ∀ other otherFault, evaluate other = .error otherFault →
        otherFault.cause = .notANumber text → otherFault.suggestion = fault.suggestion) ∧
      ((∀ text, fault.cause ≠ .notANumber text) → fault.suggestion = none) := by
  constructor
  · intro text hcause
    obtain ⟨hplace, hsuggestion⟩ := suggestion_of_misread h hcause
    refine ⟨hplace, ?_, ?_, ?_⟩
    · intro hnone
      rw [hsuggestion, hnone]
      rfl
    · intro hne
      rw [hsuggestion, List.getLast?_eq_some_getLast hne]
      rfl
    · intro other otherFault hother hcause
      rw [hsuggestion, (suggestion_of_misread hother hcause).2]
  · intro hcause
    rcases evaluate_error_cases h with hanalysis | ⟨e, _, hreduction⟩
    · exact Notes.analyze_no_suggestion hanalysis hcause
    · obtain ⟨step, _, cause, rfl, _⟩ := Reduction.ofSteps_error_cases hreduction
      rfl

/-- The misspelled words before the operator do not count, and of those behind it the last does. -/
theorem suggestion_of_the_last_misspelling :
    let sentence := "Sevn eigth two plus fourty and tree".toList
    let fault : Fault := ⟨.notANumber "fourty and tree".toList, some 4, some "three".toList⟩
    evaluate sentence = .error fault ∧
      ∃ hne, some "three".toList = Correction.nearest Correction.vocabulary
        ((Numeral.unknownWords "fourty and tree".toList).getLast hne) := by
  intro sentence fault
  have htokens : tokenize sentence = [⟨.operand "sevn eigth two".toList, 0⟩,
      ⟨.operator .add "plus".toList, 3⟩, ⟨.operand "fourty and tree".toList, 4⟩] := by
    decide +kernel
  have h : evaluate sentence = .error fault := by
    rw [evaluate_eq, htokens]
    rfl
  obtain ⟨_, _, hlast, _⟩ := (suggestion_is_of_the_failing_operand h).1 _ rfl
  exact ⟨h, by decide, hlast (by decide)⟩

end WordArithmetic
