import WordArithmetic.Evaluation
import WordArithmetic.Proofs.AnalysisFaults

namespace WordArithmetic

def Part.isOperand : Part → Bool
  | .operand _ => true
  | .operator .. => false

theorem Part.operandFault?_eq_none_iff {part : Part} :
    part.operandFault? = none ↔ ∃ text, part = .operand text ∧
      (∃ w ∈ Numeral.phraseWords text, isNumberWord w = true) ∧
      Numeral.exactValue text ≤ 0x7FFFFFFFFFFFFFFF := by
  cases part with
  | operator op phrase => simp [operandFault?]
  | operand text =>
    simp only [operandFault?, Part.operand.injEq, exists_eq_left', ← List.any_eq_true]
    cases (Numeral.phraseWords text).any isNumberWord with
    | false => simp
    | true => simp

theorem Part.operatorFault?_eq_none_iff {part : Part} {last : Bool} :
    part.operatorFault? last = none ↔ part.isOperand = false ∧ last = false := by
  cases part <;> cases last <;> simp [operatorFault?, isOperand]

namespace Token

structure Alternates (tokens : List Token) : Prop where
  odd : tokens.length % 2 = 1
  places : ∀ i token, tokens[i]? = some token → (token.part.isOperand = true ↔ i % 2 = 0)

structure OperandsRead (tokens : List Token) : Prop where
  named : ∀ text position, ⟨.operand text, position⟩ ∈ tokens →
    ∃ w ∈ Numeral.phraseWords text, isNumberWord w = true
  bounded : ∀ text position, ⟨.operand text, position⟩ ∈ tokens →
    Numeral.exactValue text ≤ 0x7FFFFFFFFFFFFFFF

/-- What a token must be so that it has no fault where it stands. -/
theorem faultAt?_place {tokens : List Token} {i : Nat} {token : Token}
    (hi : tokens[i]? = some token) :
    faultAt? tokens i = none ↔
      if i % 2 = 0 then token.part.operandFault? = none
      else token.part.isOperand = false ∧ i + 1 ≠ tokens.length := by
  rw [faultAt?, hi, Option.bind_some]
  split
  · exact Iff.rfl
  · rw [Part.operatorFault?_eq_none_iff]
    simp

/-- Tokens without a fault are an odd number, with the operands at the even places. -/
theorem alternates_of_faultless {tokens : List Token} (hne : tokens ≠ [])
    (h : ∀ i, faultAt? tokens i = none) : Alternates tokens where
  odd := by
    have hpos := List.length_pos_iff.mpr hne
    obtain ⟨last, hlast⟩ : ∃ last, tokens[tokens.length - 1]? = some last :=
      ⟨_, List.getElem?_eq_getElem (by omega)⟩
    have hplace := (faultAt?_place hlast).mp (h _)
    split at hplace <;> omega
  places := by
    intro i token hi
    have hplace := (faultAt?_place hi).mp (h i)
    split at hplace
    · rename_i heven
      obtain ⟨text, hpart, _⟩ := Part.operandFault?_eq_none_iff.mp hplace
      simp [hpart, Part.isOperand, heven]
    · rename_i hodd
      simp [hplace.1, hodd]

theorem operandsRead_of_faultless {tokens : List Token} (h : ∀ i, faultAt? tokens i = none) :
    OperandsRead tokens := by
  have hoperand (text : Text) (position : Nat) (hm : ⟨.operand text, position⟩ ∈ tokens) :
      (∃ w ∈ Numeral.phraseWords text, isNumberWord w = true) ∧
        Numeral.exactValue text ≤ 0x7FFFFFFFFFFFFFFF := by
    obtain ⟨i, hi⟩ := List.mem_iff_getElem?.mp hm
    have hplace := (faultAt?_place hi).mp (h i)
    split at hplace
    · obtain ⟨other, hpart, hread⟩ := Part.operandFault?_eq_none_iff.mp hplace
      cases hpart
      exact hread
    · simp [Part.isOperand] at hplace
  exact ⟨fun text p hm => (hoperand text p hm).1, fun text p hm => (hoperand text p hm).2⟩

/-- Tokens have no fault exactly if they alternate and their operands are read. -/
theorem faultAt?_eq_none_iff {tokens : List Token} :
    tokens ≠ [] ∧ (∀ i, faultAt? tokens i = none) ↔ Alternates tokens ∧ OperandsRead tokens := by
  constructor
  · rintro ⟨hne, h⟩
    exact ⟨alternates_of_faultless hne h, operandsRead_of_faultless h⟩
  · rintro ⟨halt, hread⟩
    have hodd := halt.odd
    constructor
    · rintro rfl
      simp at hodd
    · intro i
      cases hi : tokens[i]? with
      | none => simp [faultAt?, hi]
      | some token =>
        have hm := List.mem_iff_getElem?.mpr ⟨i, hi⟩
        have hplace := halt.places i token hi
        rw [faultAt?_place hi]
        obtain ⟨part, p⟩ := token
        cases part with
        | operand text =>
          rw [if_pos (hplace.mp rfl), Part.operandFault?_eq_none_iff]
          exact ⟨text, rfl, hread.named text p hm, hread.bounded text p hm⟩
        | operator op phrase =>
          have hne : i % 2 ≠ 0 := by
            intro he
            simpa [Part.isOperand] using hplace.mpr he
          rw [if_neg hne]
          exact ⟨rfl, by omega⟩

/-- The value that tokens stand for over the unbounded integers, if it can be computed at all. -/
structure Means (tokens : List Token) (v : Value) : Prop where
  alternates : Alternates tokens
  operands : OperandsRead tokens
  divisors : ∀ step ∈ exactSteps tokens, step.op = .divide → step.operand ≠ 0
  inRange : ∀ k, Value.InRange (ExactStep.resultOf (exactFirst tokens) ((exactSteps tokens).take k))
  result : v.toInt = ExactStep.resultOf (exactFirst tokens) (exactSteps tokens)

/-- The fault of tokens that have no value: the leftmost of the tokens, or if these have none, that
of the first step that cannot be taken. -/
inductive FailsWith (tokens : List Token) : Fault.Cause → Option Nat → Prop
  | nothing : tokens = [] → FailsWith tokens .nothing none
  | token {i : Nat} {token : Token} {cause : Fault.Cause} : tokens[i]? = some token →
    faultAt? tokens i = some cause → (∀ j < i, faultAt? tokens j = none) →
    FailsWith tokens cause (some token.position)
  | step {k : Nat} {step : ExactStep} {cause : Fault.Cause} : Alternates tokens →
    OperandsRead tokens → (exactSteps tokens)[k]? = some step →
    ExactStep.faultAt? (exactFirst tokens) (exactSteps tokens) k = some cause →
    (∀ j < k, ExactStep.faultAt? (exactFirst tokens) (exactSteps tokens) j = none) →
    FailsWith tokens cause (some step.position)

theorem exactFirst_inRange {tokens : List Token} (halt : Alternates tokens)
    (hread : OperandsRead tokens) : Value.InRange (exactFirst tokens) := by
  match tokens, halt, hread with
  | [], halt, _ => exact absurd halt.odd (by simp)
  | ⟨.operator op phrase, p⟩ :: rest, halt, _ =>
    simpa [Part.isOperand] using halt.places 0 _ rfl
  | ⟨.operand text, p⟩ :: rest, _, hread =>
    have := hread.bounded text p (by simp)
    simp only [exactFirst, Value.InRange]
    omega

/-- Tokens have a value or a fault. -/
theorem means_or_failsWith (tokens : List Token) :
    (∃ v, Means tokens v) ∨ ∃ cause position, FailsWith tokens cause position := by
  by_cases hne : tokens = []
  · exact .inr ⟨_, _, .nothing hne⟩
  rcases none_or_first (faultAt? tokens) with hnone | ⟨i, cause, hfault, hbefore⟩
  · obtain ⟨halt, hread⟩ := faultAt?_eq_none_iff.mp ⟨hne, hnone⟩
    have hfirst := exactFirst_inRange halt hread
    rcases none_or_first (ExactStep.faultAt? (exactFirst tokens) (exactSteps tokens)) with
      hsteps | ⟨k, cause, hfault, hbefore⟩
    · obtain ⟨hdivisors, hrange⟩ := (ExactStep.faultAt?_eq_none_iff hfirst).mp hsteps
      have hlast := hrange (exactSteps tokens).length
      rw [List.take_length] at hlast
      exact .inl ⟨⟨_, hlast.1, hlast.2⟩, halt, hread, hdivisors, hrange, rfl⟩
    · obtain ⟨step, hstep, _⟩ := Option.bind_eq_some_iff.mp hfault
      exact .inr ⟨_, _, .step halt hread hstep hfault hbefore⟩
  · obtain ⟨token, htoken, _⟩ := Option.bind_eq_some_iff.mp hfault
    exact .inr ⟨_, _, .token htoken hfault hbefore⟩

end Token

/-- A sentence is evaluated by reducing the expression that its tokens are read as. -/
theorem evaluate_eq (sentence : Text) :
    evaluate sentence = (Notes.analyze id {} (tokenize sentence)).result.bind fun e =>
      e.reduce.map fun v => ⟨v, (Notes.analyze id {} (tokenize sentence)).notes.warnings⟩ := by
  have htokens : (Scanner.ofSentence sentence).run.1 = tokenize sentence := rfl
  simp only [evaluate, evaluation, htokens, Expression.reduce]
  cases (Notes.analyze id {} (tokenize sentence)).result with
  | error fault => rfl
  | ok e =>
    simp only [Except.bind]
    cases e.reduction.result <;> rfl

theorem evaluate_of_means {sentence : Text} {v : Value}
    (h : Token.Means (tokenize sentence) v) :
    ∃ warnings, evaluate sentence = .ok ⟨v, warnings⟩ := by
  obtain ⟨hne, hnone⟩ := Token.faultAt?_eq_none_iff.mpr ⟨h.alternates, h.operands⟩
  obtain ⟨e, he, hfirst, hsteps⟩ := Notes.analyze_ok id {} hne hnone
  have hrange := Token.exactFirst_inRange h.alternates h.operands
  have hstepped := (ExactStep.faultAt?_eq_none_iff hrange).mpr ⟨h.divisors, h.inRange⟩
  rw [← hfirst, ← hsteps] at hstepped
  obtain ⟨w, hw, hresult⟩ := Reduction.ofSteps_ok hstepped
  have hv : w = v := by rw [Value.ext_iff, hresult, hfirst, hsteps, h.result]
  refine ⟨(Notes.analyze id {} (tokenize sentence)).notes.warnings, ?_⟩
  rw [evaluate_eq, he, Except.bind, Expression.reduce, Expression.reduction, hw, hv]
  rfl

theorem evaluate_of_failsWith {sentence : Text} {cause : Fault.Cause} {position : Option Nat}
    (h : Token.FailsWith (tokenize sentence) cause position) :
    ∃ suggestion, evaluate sentence = .error ⟨cause, position, suggestion⟩ := by
  rw [evaluate_eq]
  cases h with
  | nothing hnil => exact ⟨none, by rw [hnil]; rfl⟩
  | token htoken hfault hbefore =>
    obtain ⟨token, suggestion, hsame, he⟩ := Notes.analyze_fault id {} hfault hbefore
    rw [htoken] at hsame
    cases hsame
    exact ⟨suggestion, by rw [he]; rfl⟩
  | step halt hread hstep hfault hbefore =>
    obtain ⟨hne, hnone⟩ := Token.faultAt?_eq_none_iff.mpr ⟨halt, hread⟩
    obtain ⟨e, he, hfirst, hsteps⟩ := Notes.analyze_ok id {} hne hnone
    rw [← hfirst, ← hsteps] at hfault hbefore
    obtain ⟨failing, hk, hresult⟩ := Reduction.ofSteps_fault hfault hbefore
    rw [← hsteps, List.getElem?_map, hk] at hstep
    cases hstep
    exact ⟨none, by rw [he, Except.bind, Expression.reduce, Expression.reduction, hresult]; rfl⟩

theorem means_of_evaluate {sentence : Text} {answer : Answer} (h : evaluate sentence = .ok answer) :
    Token.Means (tokenize sentence) answer.value := by
  rcases Token.means_or_failsWith (tokenize sentence) with ⟨v, hv⟩ | ⟨cause, position, hf⟩
  · obtain ⟨warnings, ho⟩ := evaluate_of_means hv
    rw [h] at ho
    cases ho
    exact hv
  · obtain ⟨suggestion, he⟩ := evaluate_of_failsWith hf
    rw [h] at he
    cases he

theorem failsWith_of_evaluate {sentence : Text} {fault : Fault}
    (h : evaluate sentence = .error fault) :
    Token.FailsWith (tokenize sentence) fault.cause fault.position := by
  rcases Token.means_or_failsWith (tokenize sentence) with ⟨v, hv⟩ | ⟨cause, position, hf⟩
  · obtain ⟨warnings, ho⟩ := evaluate_of_means hv
    rw [h] at ho
    cases ho
  · obtain ⟨suggestion, he⟩ := evaluate_of_failsWith hf
    rw [h] at he
    cases he
    exact hf

/-- Evaluating a sentence gives the value that its tokens stand for over the unbounded integers,
and if they stand for none, their fault. -/
theorem evaluate_meaning (sentence : Text) :
    (∀ v, (∃ warnings, evaluate sentence = .ok ⟨v, warnings⟩) ↔
      Token.Means (tokenize sentence) v) ∧
    ∀ cause position, (∃ suggestion, evaluate sentence = .error ⟨cause, position, suggestion⟩) ↔
      Token.FailsWith (tokenize sentence) cause position := by
  constructor
  · intro v
    refine ⟨?_, evaluate_of_means⟩
    rintro ⟨warnings, he⟩
    exact means_of_evaluate he
  · intro cause position
    refine ⟨?_, evaluate_of_failsWith⟩
    rintro ⟨suggestion, he⟩
    exact failsWith_of_evaluate he

end WordArithmetic
