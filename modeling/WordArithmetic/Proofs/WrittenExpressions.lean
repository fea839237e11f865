import WordArithmetic.Proofs.EnglishNumerals
import WordArithmetic.Proofs.SentenceMeaning

namespace WordArithmetic

/-- The ways to write a number: in digits behind any number of zeros, or in English. -/
inductive NumberForm where
  | digits (zeros : Nat)
  | english (hyphenated : Nat → Bool)

namespace NumberForm

def words (n : Nat) : NumberForm → List Text
  | .digits zeros => [List.replicate zeros '0' ++ Text.ofNat n]
  | .english hyphenated => English.spelling hyphenated n

def Covers (n : Nat) : NumberForm → Prop
  | .digits _ => True
  | .english _ => n ≤ 999999999999

instance (n : Nat) : (form : NumberForm) → Decidable (form.Covers n)
  | .digits _ => inferInstanceAs (Decidable True)
  | .english _ => inferInstanceAs (Decidable (n ≤ 999999999999))

theorem isNumeral_digits (zeros n : Nat) :
    NumberWord.isNumeral (List.replicate zeros '0' ++ Text.ofNat n) = true := by
  rw [NumberWord.isNumeral_iff]
  refine ⟨by simp [Text.ofNat, Nat.toDigits_ne_nil], ?_⟩
  intro c hc
  rcases List.mem_append.mp hc with hz | hd
  · rw [List.eq_of_mem_replicate hz]
    rfl
  · exact Nat.isDigit_of_mem_toDigits (by decide) (by decide) hd

/-- Zeros in front do not change what digits say. -/
theorem ofText?_digits (zeros n : Nat) :
    NumberWord.ofText? (List.replicate zeros '0' ++ Text.ofNat n) = some (.amount n) := by
  rw [NumberWord.ofText?_numeral (isNumeral_digits zeros n), Nat.ofDigitChars_append,
    Nat.ofDigitChars_replicate_zero, Nat.mul_zero, Text.ofNat, Nat.ofDigitChars_ten_toDigits]

theorem isPlain_words (form : NumberForm) (n : Nat) : ∀ w ∈ form.words n, Numeral.IsPlain w := by
  intro w hw
  cases form with
  | digits zeros =>
    rw [words, List.mem_singleton] at hw
    subst w
    exact Numeral.isPlain_of_ofText? (ofText?_digits zeros n)
  | english hyphenated => exact English.isPlain_spelling hyphenated n w hw

/-- Whatever its form, a number is read as itself. -/
theorem exactOf_words {form : NumberForm} {n : Nat} (h : form.Covers n) :
    Numeral.exactOf ((form.words n).flatMap Numeral.phraseWords) = n := by
  cases form with
  | digits zeros =>
    change ((Numeral.Count.mk 0 0).readAll (words n (.digits zeros))).value = n
    rw [words, Numeral.Count.readAll_singleton (ofText?_digits zeros n)]
    simp [Numeral.Count.extend, Numeral.Count.value]
  | english hyphenated => exact English.exactOf_spelling hyphenated h

theorem parts_ne_nil {form : NumberForm} {n : Nat} (h : form.Covers n) :
    (form.words n).flatMap Numeral.phraseWords ≠ [] := by
  cases form with
  | digits zeros =>
    have hnumber := isNumberWord_of_ofText? (ofText?_digits zeros n)
    simp [words, Numeral.phraseWords_of_isNumberWord hnumber]
  | english hyphenated => exact English.parts_ne_nil hyphenated h

theorem words_ne_nil {form : NumberForm} {n : Nat} (h : form.Covers n) : form.words n ≠ [] := by
  intro he
  apply parts_ne_nil h
  rw [he, List.flatMap_nil]

end NumberForm

structure WrittenNumber where
  value : Value
  form : NumberForm
  nonneg : 0 ≤ value.toInt
  covered : form.Covers value.toInt.toNat

def WrittenNumber.words (n : WrittenNumber) : List Text :=
  n.form.words n.value.toInt.toNat

structure WrittenStep where
  op : Operator
  phrase : Text
  number : WrittenNumber
  named : (phrase, op) ∈ Operator.phrases

namespace WrittenStep

def words (step : WrittenStep) : List Text :=
  Text.words step.phrase ++ step.number.words

/-- The steps of an expression, whose numbers stand behind the words before and their operators. -/
def stepsFrom (before : Nat) : List WrittenStep → List Step
  | [] => []
  | step :: rest =>
    ⟨step.op, step.number.value, before + (Text.words step.phrase).length⟩ ::
      stepsFrom (before + step.words.length) rest

def tokensFrom (before : Nat) : List WrittenStep → List Token
  | [] => []
  | step :: rest =>
    ⟨.operator step.op step.phrase, before⟩ ::
      ⟨.operand (Text.unwords step.number.words), before + (Text.words step.phrase).length⟩ ::
      tokensFrom (before + step.words.length) rest

end WrittenStep

structure WrittenExpression where
  first : WrittenNumber
  steps : List WrittenStep

namespace WrittenExpression

def words (w : WrittenExpression) : List Text :=
  w.first.words ++ w.steps.flatMap WrittenStep.words

def expression (w : WrittenExpression) : Expression :=
  ⟨w.first.value, WrittenStep.stepsFrom w.first.words.length w.steps⟩

def tokens (w : WrittenExpression) : List Token :=
  ⟨.operand (Text.unwords w.first.words), 0⟩ ::
    WrittenStep.tokensFrom w.first.words.length w.steps

end WrittenExpression

namespace WrittenNumber

/-- A number ends where an operator begins or the words end. -/
theorem ofWords_append (n : WrittenNumber) {rest : List Text}
    (hrest : Operator.StartsWithPhrase rest) (position : Nat) :
    Token.ofWords position (n.words ++ rest) =
      ⟨.operand (Text.unwords n.words), position⟩ ::
        Token.ofWords (position + n.words.length) rest := by
  apply Token.ofWords_operand _ _ hrest
  · exact NumberForm.words_ne_nil n.covered
  · exact Numeral.freeOfPhrases_of_plain (n.form.isPlain_words _)

theorem readOperand (n : WrittenNumber) (notes : Notes) (position : Nat) :
    notes.readOperand id ⟨.operand (Text.unwords n.words), position⟩ = ⟨.ok n.value, notes⟩ := by
  apply Notes.readOperand_of_plain
  · exact n.form.isPlain_words _
  · exact NumberForm.parts_ne_nil n.covered
  · rw [words, NumberForm.exactOf_words n.covered, Int.toNat_of_nonneg n.nonneg]

end WrittenNumber

namespace WrittenStep

theorem startsWithPhrase (steps : List WrittenStep) :
    Operator.StartsWithPhrase (steps.flatMap words) := by
  cases steps with
  | nil => exact .inl rfl
  | cons step rest =>
    refine .inr ⟨_, step.named, ?_⟩
    rw [List.flatMap_cons, words, List.append_assoc]
    exact List.prefix_append _ _

theorem ofWords_words (before : Nat) (steps : List WrittenStep) :
    Token.ofWords before (steps.flatMap words) = tokensFrom before steps := by
  induction steps generalizing before with
  | nil => simp [Token.ofWords, tokensFrom]
  | cons step rest ih =>
    rw [List.flatMap_cons, words, List.append_assoc, Token.ofWords_operator step.named,
      step.number.ofWords_append (startsWithPhrase rest), ih, tokensFrom, words,
      List.length_append, Nat.add_assoc]

/-- Each written step is read as its step, and nothing is noted of it. -/
theorem readSteps_tokens (notes : Notes) (before : Nat) (steps : List WrittenStep) :
    notes.readSteps id (tokensFrom before steps) = ⟨.ok (stepsFrom before steps), notes⟩ := by
  induction steps generalizing before with
  | nil => rfl
  | cons step rest ih =>
    simp [tokensFrom, Notes.readSteps, Notes.readOperandAnd, step.number.readOperand, ih, stepsFrom]

end WrittenStep

namespace WrittenExpression

theorem ofWords_words (w : WrittenExpression) : Token.ofWords 0 w.words = w.tokens := by
  rw [words, w.first.ofWords_append (WrittenStep.startsWithPhrase w.steps),
    WrittenStep.ofWords_words, Nat.zero_add]
  rfl

theorem analyze_tokens (w : WrittenExpression) (notes : Notes) :
    notes.analyze id w.tokens = ⟨.ok w.expression, notes⟩ := by
  simp [tokens, Notes.analyze, Notes.readOperandAnd, w.first.readOperand,
    WrittenStep.readSteps_tokens, expression]

end WrittenExpression

/-- An expression that is written out is read back without warnings, each step with the position
of its number, however the words are spaced and capitalized. Evaluating the sentence is reducing
the expression. -/
theorem written_expression_is_read_back (w : WrittenExpression) (sentence : Text)
    (h : (Text.words sentence).map Text.lowercase = w.words) :
    Notes.analyze id {} (tokenize sentence) = ⟨.ok w.expression, {}⟩ ∧
      evaluate sentence = w.expression.reduce.map fun v => ⟨v, []⟩ := by
  have htokens : tokenize sentence = w.tokens := by
    rw [tokenize, sentenceWords_eq, h, w.ofWords_words]
  have hanalysis := w.analyze_tokens {}
  rw [← htokens] at hanalysis
  refine ⟨hanalysis, ?_⟩
  rw [evaluate_eq, hanalysis]
  rfl

/-- A division by a written zero is found where the zero stands. -/
theorem written_zero_divisor :
    let sentence := "007 Multiplied  by twenty-one divided by zero".toList
    let w : WrittenExpression := {
      first := ⟨⟨7, by decide, by decide⟩, .digits 2, by decide, by decide⟩
      steps := [
        ⟨.multiply, "multiplied by".toList,
          ⟨⟨21, by decide, by decide⟩, .english fun _ => true, by decide, by decide⟩, by decide⟩,
        ⟨.divide, "divided by".toList,
          ⟨.zero, .english fun _ => false, by decide, by decide⟩, by decide⟩] }
    (Text.words sentence).map Text.lowercase = w.words ∧
      evaluate sentence = .error (.atWord 6 .divisionByZero) := by
  intro sentence w
  have hwords : (Text.words sentence).map Text.lowercase = w.words := by decide
  refine ⟨hwords, ?_⟩
  rw [(written_expression_is_read_back w sentence hwords).2]
  rfl

end WordArithmetic
