import WordArithmetic.Proofs.ExactNumerals
import WordArithmetic.Proofs.ExactReduction
import WordArithmetic.Proofs.PhraseWords

namespace WordArithmetic

def Part.operandFault? : Part → Option Fault.Cause
  | .operator _ phrase => some (.missingOperand phrase)
  | .operand text =>
    if (Numeral.phraseWords text).any isNumberWord = false then some (.notANumber text)
    else if Numeral.exactValue text ≤ 0x7FFFFFFFFFFFFFFF then none
    else some .outOfRange

def Part.operatorFault? (last : Bool) : Part → Option Fault.Cause
  | .operand text => some (.missingOperand text)
  | .operator _ phrase => if last then some (.trailingOperator phrase) else none

namespace Token

/-- What is wrong with the token at an index, if anything. Operands belong at the even indices, and
an operator at the end has nothing to operate on. -/
def faultAt? (tokens : List Token) (i : Nat) : Option Fault.Cause :=
  tokens[i]?.bind fun token =>
    if i % 2 = 0 then token.part.operandFault?
    else token.part.operatorFault? (i + 1 = tokens.length)

theorem faultAt?_zero (first : Token) (rest : List Token) :
    faultAt? (first :: rest) 0 = first.part.operandFault? := rfl

theorem faultAt?_one (first second : Token) (rest : List Token) :
    faultAt? (first :: second :: rest) 1 = second.part.operatorFault? (rest = []) := by
  simp only [faultAt?, List.getElem?_cons_succ, List.getElem?_cons_zero, Option.bind_some]
  cases rest <;> simp

/-- An operand and an operator in front change nothing for the tokens behind them. -/
theorem faultAt?_add_two (first second : Token) (rest : List Token) (i : Nat) :
    faultAt? (first :: second :: rest) (i + 2) = faultAt? rest i := by
  simp only [faultAt?, List.getElem?_cons_succ, List.length_cons, Nat.add_mod_right]
  congr 2
  funext token
  simp

def exactFirst : List Token → Int
  | ⟨.operand text, _⟩ :: _ => Numeral.exactValue text
  | _ => 0

/-- The operators with the exact values of their right operands, behind a first token. -/
def exactSteps : List Token → List ExactStep
  | _ :: ⟨.operator op _, _⟩ :: ⟨.operand text, position⟩ :: rest =>
    ⟨op, Numeral.exactValue text, position⟩ :: exactSteps (⟨.operand text, position⟩ :: rest)
  | _ => []

end Token

namespace Noted

variable {α β : Type}

@[simp]
theorem andThen_ok (a : α) (notes : Notes) (next : α → Notes → Noted β) :
    andThen ⟨.ok a, notes⟩ next = next a notes := rfl

theorem andThen_result (noted : Noted α) (next : α → Notes → Noted β) :
    (noted.andThen next).result = noted.result.bind fun a => (next a noted.notes).result := by
  obtain ⟨result, notes⟩ := noted
  cases result <;> rfl

end Noted

namespace Notes

variable (count : Nat → Nat)

theorem readOperand_ok (notes : Notes) {token : Token} (h : token.part.operandFault? = none) :
    ∃ text v, token.part = .operand text ∧ (notes.readOperand count token).result = .ok v ∧
      v.toInt = Numeral.exactValue text := by
  obtain ⟨part, position⟩ := token
  cases part with
  | operator op phrase => simp [Part.operandFault?] at h
  | operand text =>
    simp only [Part.operandFault?] at h
    split at h
    · contradiction
    · rename_i hnamed
      rw [← namesNumber_eq, Bool.not_eq_false] at hnamed
      split at h
      · rename_i hle
        cases hv : (Numeral.read text).value with
        | none =>
          rw [Numeral.read_value, Value.ofInt?_eq_none_iff, Value.InRange] at hv
          omega
        | some v =>
          refine ⟨text, v, rfl, by simp [readOperand, hnamed, hv], ?_⟩
          rwa [Numeral.read_value, Value.ofInt?_eq_some_iff] at hv
      · contradiction

theorem readOperand_fault (notes : Notes) {token : Token} {cause : Fault.Cause}
    (h : token.part.operandFault? = some cause) :
    ∃ suggestion, (notes.readOperand count token).result =
      .error ⟨cause, some token.position, suggestion⟩ := by
  obtain ⟨part, position⟩ := token
  cases part with
  | operator op phrase =>
    cases h
    exact ⟨none, rfl⟩
  | operand text =>
    simp only [Part.operandFault?] at h
    split at h
    · rename_i hnamed
      rw [← namesNumber_eq] at hnamed
      cases h
      exact ⟨_, by simp only [readOperand, hnamed, Bool.false_eq_true, if_false]; rfl⟩
    · rename_i hnamed
      rw [← namesNumber_eq, Bool.not_eq_false] at hnamed
      split at h
      · contradiction
      · rename_i hle
        cases h
        have hv : (Numeral.read text).value = none := by
          rw [Numeral.read_value, Value.ofInt?_eq_none_iff, Value.InRange]
          omega
        exact ⟨none, by simp [readOperand, hnamed, hv, Fault.atWord]⟩

/-- An operand and the steps behind it are read if both are. -/
theorem readOperandAnd_result {α : Type} (notes : Notes) (operand : Token)
    (readRest : Notes → Noted (List Step)) (make : Value → List Step → α) :
    (notes.readOperandAnd count operand readRest make).result =
      (notes.readOperand count operand).result.bind fun v =>
        (readRest (notes.readOperand count operand).notes).result.map (make v) := by
  rw [readOperandAnd, Noted.andThen_result]
  congr 1
  funext v
  rw [Noted.andThen_result]
  cases (readRest (notes.readOperand count operand).notes).result <;> rfl

/-- The steps are read only behind an operand that is read, and their notes are the last. -/
theorem readOperandAnd_notes {α : Type} (notes : Notes) (operand : Token)
    (readRest : Notes → Noted (List Step)) (make : Value → List Step → α) :
    (notes.readOperandAnd count operand readRest make).notes =
      match (notes.readOperand count operand).result with
      | .ok _ => (readRest (notes.readOperand count operand).notes).notes
      | .error _ => (notes.readOperand count operand).notes := by
  rw [readOperandAnd, Noted.andThen]
  cases (notes.readOperand count operand).result with
  | error fault => rfl
  | ok v =>
    simp only [Noted.andThen]
    cases (readRest (notes.readOperand count operand).notes).result <;> rfl

theorem readSteps_result (notes : Notes) (op : Operator) (phrase : Text) (p : Nat)
    (operand : Token) (rest : List Token) :
    (notes.readSteps count (⟨.operator op phrase, p⟩ :: operand :: rest)).result =
      (notes.readOperand count operand).result.bind fun v =>
        ((notes.readOperand count operand).notes.readSteps count rest).result.map
          (⟨op, v, operand.position⟩ :: ·) := by
  rw [readSteps, readOperandAnd_result]

theorem analyze_result (notes : Notes) (first : Token) (rest : List Token) :
    (notes.analyze count (first :: rest)).result =
      (notes.readOperand count first).result.bind fun v =>
        ((notes.readOperand count first).notes.readSteps count rest).result.map (⟨v, ·⟩) := by
  rw [analyze, readOperandAnd_result]

/-- Steps without a fault are read with the exact values of their operands. -/
theorem readSteps_ok (notes : Notes) (first : Token) (rest : List Token)
    (h : ∀ i, Token.faultAt? (first :: rest) (i + 1) = none) :
    ∃ steps, (notes.readSteps count rest).result = .ok steps ∧
      steps.map Step.exact = Token.exactSteps (first :: rest) := by
  match rest with
  | [] => exact ⟨[], rfl, rfl⟩
  | [second] =>
    have hsecond := h 0
    rw [Token.faultAt?_one] at hsecond
    obtain ⟨part, position⟩ := second
    cases part <;> simp [Part.operatorFault?] at hsecond
  | ⟨part, p⟩ :: operand :: rest =>
    have hoperator := h 0
    have hoperand := h 1
    rw [Token.faultAt?_one] at hoperator
    rw [Token.faultAt?_add_two, Token.faultAt?_zero] at hoperand
    cases part with
    | operand text => simp [Part.operatorFault?] at hoperator
    | operator op phrase =>
      obtain ⟨text, v, hpart, hv, hexact⟩ := notes.readOperand_ok count hoperand
      have hlater : ∀ i, Token.faultAt? (operand :: rest) (i + 1) = none := by
        intro i
        rw [← h (i + 2), Token.faultAt?_add_two]
      obtain ⟨steps, hsteps, hmap⟩ := readSteps_ok _ operand rest hlater
      refine ⟨⟨op, v, operand.position⟩ :: steps, ?_, ?_⟩
      · rw [readSteps_result, hv, Except.bind, hsteps]
        rfl
      · obtain ⟨part, position⟩ := operand
        subst hpart
        rw [List.map_cons, hmap, Token.exactSteps, Step.exact, hexact]

/-- The first fault behind a first token ends the reading of steps. -/
theorem readSteps_fault (notes : Notes) (first : Token) (rest : List Token) {i : Nat}
    {cause : Fault.Cause} (h : Token.faultAt? (first :: rest) (i + 1) = some cause)
    (hfirst : ∀ j < i, Token.faultAt? (first :: rest) (j + 1) = none) :
    ∃ token suggestion, rest[i]? = some token ∧
      (notes.readSteps count rest).result = .error ⟨cause, some token.position, suggestion⟩ := by
  match rest with
  | [] => simp [Token.faultAt?] at h
  | [second] =>
    cases i with
    | zero =>
      rw [Token.faultAt?_one] at h
      obtain ⟨part, position⟩ := second
      cases part <;> cases h <;> exact ⟨_, none, rfl, rfl⟩
    | succ i => simp [Token.faultAt?] at h
  | ⟨part, p⟩ :: operand :: rest =>
    cases i with
    | zero =>
      rw [Token.faultAt?_one] at h
      cases part with
      | operand text =>
        cases h
        exact ⟨_, none, rfl, rfl⟩
      | operator op phrase => simp [Part.operatorFault?] at h
    | succ i =>
      have hoperator := hfirst 0 (Nat.succ_pos i)
      rw [Token.faultAt?_one] at hoperator
      rw [Token.faultAt?_add_two] at h
      cases part with
      | operand text => simp [Part.operatorFault?] at hoperator
      | operator op phrase =>
        cases i with
        | zero =>
          rw [Token.faultAt?_zero] at h
          obtain ⟨suggestion, he⟩ := notes.readOperand_fault count h
          refine ⟨operand, suggestion, rfl, ?_⟩
          rw [readSteps_result, he]
          rfl
        | succ i =>
          have hoperand := hfirst 1 (by omega)
          rw [Token.faultAt?_add_two, Token.faultAt?_zero] at hoperand
          obtain ⟨text, v, _, hv, _⟩ := notes.readOperand_ok count hoperand
          have hbefore : ∀ j < i, Token.faultAt? (operand :: rest) (j + 1) = none := by
            intro j hj
            rw [← hfirst (j + 2) (by omega), Token.faultAt?_add_two]
          obtain ⟨token, suggestion, htoken, he⟩ := readSteps_fault _ operand rest h hbefore
          refine ⟨token, suggestion, by simpa using htoken, ?_⟩
          rw [readSteps_result, hv, Except.bind, he]
          rfl

/-- Tokens without a fault are read as the expression of their exact values. -/
theorem analyze_ok (notes : Notes) {tokens : List Token} (hne : tokens ≠ [])
    (h : ∀ i, Token.faultAt? tokens i = none) :
    ∃ e, (notes.analyze count tokens).result = .ok e ∧ e.first.toInt = Token.exactFirst tokens ∧
      e.steps.map Step.exact = Token.exactSteps tokens := by
  cases tokens with
  | nil => contradiction
  | cons first rest =>
    obtain ⟨text, v, hpart, hv, hexact⟩ := notes.readOperand_ok count (h 0)
    obtain ⟨steps, hsteps, hmap⟩ :=
      (notes.readOperand count first).notes.readSteps_ok count first rest (fun i => h (i + 1))
    refine ⟨⟨v, steps⟩, ?_, ?_, hmap⟩
    · rw [analyze_result, hv, Except.bind, hsteps]
      rfl
    · obtain ⟨part, position⟩ := first
      subst hpart
      exact hexact

/-- The leftmost fault of the tokens is the one reported, at the position of its token. -/
theorem analyze_fault (notes : Notes) {tokens : List Token} {i : Nat} {cause : Fault.Cause}
    (h : Token.faultAt? tokens i = some cause)
    (hfirst : ∀ j < i, Token.faultAt? tokens j = none) :
    ∃ token suggestion, tokens[i]? = some token ∧
      (notes.analyze count tokens).result = .error ⟨cause, some token.position, suggestion⟩ := by
  cases tokens with
  | nil => simp [Token.faultAt?] at h
  | cons first rest =>
    cases i with
    | zero =>
      obtain ⟨suggestion, he⟩ := notes.readOperand_fault count h
      refine ⟨first, suggestion, rfl, ?_⟩
      rw [analyze_result, he]
      rfl
    | succ i =>
      obtain ⟨text, v, _, hv, _⟩ := notes.readOperand_ok count (hfirst 0 (Nat.succ_pos i))
      obtain ⟨token, suggestion, htoken, he⟩ :=
        (notes.readOperand count first).notes.readSteps_fault count first rest h
          (fun j hj => hfirst (j + 1) (Nat.succ_lt_succ hj))
      refine ⟨token, suggestion, by simpa using htoken, ?_⟩
      rw [analyze_result, hv, Except.bind, he]
      rfl

end Notes

end WordArithmetic
