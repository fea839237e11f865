import Mathlib.Data.List.Forall2
import WordArithmetic.Proofs.Decomposition
import WordArithmetic.Proofs.SentenceMeaning

namespace WordArithmetic

namespace Fault

/-- Two outcomes that differ in the position of a fault at most. -/
inductive Agree {α : Type} (R : α → α → Prop) : Except Fault α → Except Fault α → Prop
  | ok {a b : α} : R a b → Agree R (.ok a) (.ok b)
  | error (cause : Cause) (p q : Option Nat) (suggestion : Option Text) :
    Agree R (.error ⟨cause, p, suggestion⟩) (.error ⟨cause, q, suggestion⟩)

variable {α β : Type} {R : α → α → Prop} {S : β → β → Prop}

theorem Agree.bind {x y : Except Fault α} {f g : α → Except Fault β} (h : Agree R x y)
    (hnext : ∀ a b, R a b → Agree S (f a) (g b)) : Agree S (x.bind f) (y.bind g) := by
  cases h with
  | ok hab => exact hnext _ _ hab
  | error cause p q suggestion => exact .error cause p q suggestion

theorem Agree.map {x y : Except Fault α} {f g : α → β} (h : Agree R x y)
    (hnext : ∀ a b, R a b → S (f a) (g b)) : Agree S (x.map f) (y.map g) := by
  cases h with
  | ok hab => exact .ok (hnext _ _ hab)
  | error cause p q suggestion => exact .error cause p q suggestion

end Fault

/-- Parts that are worth the same in a sentence: number phrases that count the same, or the same
operator phrase. -/
inductive Part.Alike : Part → Part → Prop
  | operand {a b : Text} : (∃ w ∈ Numeral.phraseWords a, isNumberWord w = true) →
    (∃ w ∈ Numeral.phraseWords b, isNumberWord w = true) →
    Numeral.exactValue a = Numeral.exactValue b → Alike (.operand a) (.operand b)
  | operator (op : Operator) (phrase : Text) : Alike (.operator op phrase) (.operator op phrase)

def Step.work (step : Step) : Operator × Value :=
  (step.op, step.value)

namespace Token

def Alike (tokens others : List Token) : Prop :=
  List.Forall₂ (fun a b => a.part.Alike b.part) tokens others

def OperandsNamed (tokens : List Token) : Prop :=
  ∀ text position, ⟨.operand text, position⟩ ∈ tokens →
    ∃ w ∈ Numeral.phraseWords text, isNumberWord w = true

theorem OperandsNamed.tail {token : Token} {tokens : List Token}
    (h : OperandsNamed (token :: tokens)) : OperandsNamed tokens :=
  fun text position hm => h text position (List.mem_cons_of_mem token hm)

/-- Tokens whose operands are rewritten one by one, each into one that counts the same. -/
theorem alike_of_map_part {tokens others : List Token} {f : Part → Part}
    (hparts : others.map part = tokens.map (f ·.part))
    (hoperator : ∀ op phrase, f (.operator op phrase) = .operator op phrase)
    (hoperand : ∀ text position, ⟨.operand text, position⟩ ∈ tokens →
      Part.Alike (.operand text) (f (.operand text))) : Alike tokens others := by
  have hforall : List.Forall₂ Part.Alike (tokens.map part) (others.map part) := by
    rw [hparts, List.forall₂_map_left_iff, List.forall₂_map_right_iff, List.forall₂_same]
    rintro ⟨part, position⟩ hm
    cases part with
    | operator op phrase =>
      rw [hoperator]
      exact .operator op phrase
    | operand text => exact hoperand text position hm
  rwa [List.forall₂_map_left_iff, List.forall₂_map_right_iff] at hforall

end Token

namespace Notes

/-- Operands of one count have one value or are both out of range, and operators are none. -/
theorem readOperand_alike (notes notes' : Notes) {a b : Token} (h : a.part.Alike b.part) :
    Fault.Agree Eq (notes.readOperand id a).result (notes'.readOperand id b).result := by
  obtain ⟨part, p⟩ := a
  obtain ⟨part', q⟩ := b
  cases h with
  | operator op phrase => exact .error (.missingOperand phrase) (some p) (some q) none
  | @operand text text' hnamed hnamed' hvalue =>
    rw [← List.any_eq_true, ← namesNumber_eq] at hnamed hnamed'
    have hread : (Numeral.read text').value = (Numeral.read text).value := by
      rw [Numeral.read_value, Numeral.read_value, hvalue]
    simp only [readOperand, hnamed, hnamed', if_true, hread]
    cases (Numeral.read text).value with
    | none => exact .error .outOfRange (some p) (some q) none
    | some v => exact .ok rfl

/-- Behind an operand, tokens that are worth the same are read as the same steps or have the same
fault. -/
theorem readSteps_alike (notes notes' : Notes) {start position : Nat} {first : Text}
    {rest others : List Token}
    (hd : Token.Decomposition start (⟨.operand first, position⟩ :: rest))
    (h : Token.Alike rest others) :
    Fault.Agree (fun a b => a.map Step.work = b.map Step.work) (notes.readSteps id rest).result
      (notes'.readSteps id others).result := by
  match rest with
  | [] =>
    cases h
    exact .ok rfl
  | ⟨.operand second, p⟩ :: rest => exact absurd rfl (hd.apart [] first position second p rest)
  | ⟨.operator op phrase, p⟩ :: rest =>
    obtain ⟨⟨part, p'⟩, others, hoperator, hrest, rfl⟩ := List.forall₂_cons_left_iff.mp h
    cases hoperator
    match rest with
    | [] =>
      cases hrest
      exact .error (.trailingOperator phrase) (some p) (some p') none
    | ⟨.operator op' phrase', q⟩ :: rest =>
      obtain ⟨⟨part, q'⟩, others, hoperator, _, rfl⟩ := List.forall₂_cons_left_iff.mp hrest
      cases hoperator
      exact .error (.missingOperand phrase') (some q) (some q') none
    | ⟨.operand text, q⟩ :: rest =>
      obtain ⟨other, others, hoperand, hlater, rfl⟩ := List.forall₂_cons_left_iff.mp hrest
      rw [readSteps_result, readSteps_result]
      refine (notes.readOperand_alike notes' hoperand).bind ?_
      rintro v _ rfl
      refine (readSteps_alike _ _ hd.tail.tail hlater).map ?_
      intro steps steps' hsteps
      rw [List.map_cons, List.map_cons, hsteps]
      rfl

theorem analyze_alike {tokens others : List Token} (hd : Token.Decomposition 0 tokens)
    (h : Token.Alike tokens others) :
    Fault.Agree (fun a b => a.first = b.first ∧ a.steps.map Step.work = b.steps.map Step.work)
      (analyze id {} tokens).result (analyze id {} others).result := by
  match tokens with
  | [] =>
    cases h
    exact .error .nothing none none none
  | ⟨.operator op phrase, p⟩ :: rest =>
    obtain ⟨⟨part, p'⟩, others, hoperator, _, rfl⟩ := List.forall₂_cons_left_iff.mp h
    cases hoperator
    exact .error (.missingOperand phrase) (some p) (some p') none
  | ⟨.operand text, p⟩ :: rest =>
    obtain ⟨other, others, hoperand, hrest, rfl⟩ := List.forall₂_cons_left_iff.mp h
    rw [analyze_result, analyze_result]
    refine (readOperand_alike {} {} hoperand).bind ?_
    rintro v _ rfl
    refine (readSteps_alike _ _ hd hrest).map ?_
    intro steps steps' hsteps
    exact ⟨rfl, hsteps⟩

end Notes

/-- Where steps stand does not matter to what they do. -/
theorem Reduction.ofSteps_agree (value : Value) {steps steps' : List Step}
    (h : steps.map Step.work = steps'.map Step.work) :
    Fault.Agree Eq (ofSteps value steps).result (ofSteps value steps').result := by
  induction steps generalizing value steps' with
  | nil =>
    rw [List.map_nil, eq_comm, List.map_eq_nil_iff] at h
    rw [h]
    exact .ok rfl
  | cons step steps ih =>
    cases steps' with
    | nil => simp at h
    | cons step' steps' =>
      obtain ⟨hwork, hrest⟩ := List.cons.inj h
      obtain ⟨op, operand, p⟩ := step
      obtain ⟨op', operand', q⟩ := step'
      cases hwork
      cases happly : op.apply value operand with
      | error cause =>
        simp only [ofSteps, happly]
        exact .error cause (some p) (some q) none
      | ok next =>
        simp only [ofSteps, happly]
        exact ih next hrest

/-- Sentences whose tokens are worth the same have the same value, or the same fault but for its
position. -/
theorem evaluate_alike {sentence other : Text}
    (h : Token.Alike (tokenize sentence) (tokenize other)) :
    Fault.Agree (fun a b => a.value = b.value) (evaluate sentence) (evaluate other) := by
  rw [evaluate_eq, evaluate_eq]
  refine (Notes.analyze_alike (Token.tokenize_decomposition sentence).1 h).bind ?_
  rintro ⟨first, steps⟩ ⟨_, steps'⟩ ⟨rfl, hsteps⟩
  refine (Reduction.ofSteps_agree first hsteps).map ?_
  rintro v _ rfl
  rfl

end WordArithmetic
