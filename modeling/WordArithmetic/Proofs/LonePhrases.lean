import WordArithmetic.Proofs.LongerSentences

namespace WordArithmetic

def FreeOfOperators (sentence : Text) : Prop :=
  ∀ token ∈ tokenize sentence, token.part.isOperand = true

def Numeral.Named (phrase : Text) : Prop :=
  ∃ w ∈ phraseWords phrase, isNumberWord w = true

theorem tokenize_of_no_words {sentence : Text} (h : Text.words sentence = []) :
    tokenize sentence = [] := by
  rw [tokenize, sentenceWords_eq, h, List.map_nil, Token.ofWords]

/-- Two operands never meet, so a sentence without operators is one operand. -/
theorem FreeOfOperators.tokenize {sentence : Text} (h : FreeOfOperators sentence)
    (hne : Text.words sentence ≠ []) : ∃ text, tokenize sentence = [⟨.operand text, 0⟩] := by
  obtain ⟨hd, hwords⟩ := Token.tokenize_decomposition sentence
  match htokens : WordArithmetic.tokenize sentence with
  | [] =>
    rw [htokens] at hwords
    exact absurd (List.map_eq_nil_iff.mp hwords.symm) hne
  | [⟨part, position⟩] =>
    rw [htokens] at hd
    have hposition : position = 0 := hd.position
    cases part with
    | operand text => exact ⟨text, by rw [hposition]⟩
    | operator op phrase =>
      have hoperand := h _ (htokens ▸ List.mem_singleton.mpr rfl)
      cases hoperand
  | ⟨part, p⟩ :: ⟨other, q⟩ :: rest =>
    have hfirst := h ⟨part, p⟩ (by simp [htokens])
    have hsecond := h ⟨other, q⟩ (by simp [htokens])
    rw [htokens] at hd
    cases part with
    | operator op phrase => cases hfirst
    | operand text =>
      cases other with
      | operator op phrase => cases hsecond
      | operand next => exact absurd rfl (hd.apart [] text p next q rest)

/-- Calculating one operand is reading it. -/
theorem calculate_of_operand {sentence text : Text} {position : Nat}
    (h : tokenize sentence = [⟨.operand text, position⟩]) :
    calculate sentence = (Notes.readOperand id {} ⟨.operand text, position⟩).result := by
  rw [calculate, evaluate_eq, h, Notes.analyze_result]
  cases (Notes.readOperand id {} ⟨.operand text, position⟩).result <;> rfl

namespace Numeral

theorem namesNumber_iff {text : Text} : namesNumber text = true ↔ Named text := by
  rw [namesNumber_eq, List.any_eq_true, Named]

/-- A phrase in which no word means a number counts nothing. -/
theorem exactValue_of_not_named {phrase : Text} (h : ¬ Named phrase) : exactValue phrase = 0 := by
  have hnone : recognized phrase = [] := by
    rw [recognized, List.filter_eq_nil_iff]
    intro w hw hnumber
    exact h ⟨w, hw, hnumber⟩
  rw [← exactOf_recognized, hnone]
  rfl

theorem read_of_not_named {phrase : Text} (h : ¬ Named phrase) :
    (read phrase).value = some .zero := by
  rw [read_value, exactValue_of_not_named h]
  rfl

theorem valueOf_of_not_named {phrase : Text} (h : ¬ Named phrase) : valueOf phrase = .zero := by
  rw [valueOf, read_of_not_named h, Option.getD_some]

theorem Named.words_ne_nil {phrase : Text} (h : Named phrase) : Text.words phrase ≠ [] := by
  obtain ⟨w, hw, _⟩ := h
  intro hwords
  rw [phraseWords_eq_flatMap, hwords] at hw
  cases hw

end Numeral

namespace Notes

variable {text : Text} {position : Nat}

theorem readOperand_of_named (notes : Notes) (h : Numeral.Named text) :
    (notes.readOperand id ⟨.operand text, position⟩).result =
      (Numeral.read text).value.elim (.error (.atWord position .outOfRange)) .ok := by
  rw [readOperand]
  simp only [Numeral.namesNumber_iff.mpr h, if_true]
  cases (Numeral.read text).value <;> rfl

theorem readOperand_of_not_named (notes : Notes) (h : ¬ Numeral.Named text) :
    ∃ suggestion, (notes.readOperand id ⟨.operand text, position⟩).result =
      .error ⟨.notANumber text, some position, suggestion⟩ := by
  rw [readOperand]
  simp only [mt Numeral.namesNumber_iff.mp h]
  exact ⟨_, rfl⟩

end Notes

/-- The four ways in which a number phrase can be calculated. -/
inductive Calculated (phrase : Text) : Except Fault Value → Prop
  | nothing : Text.words phrase = [] → Calculated phrase (.error ⟨.nothing, none, none⟩)
  | notANumber (text : Text) (suggestion : Option Text) : Text.words phrase ≠ [] →
    ¬ Numeral.Named phrase → Calculated phrase (.error ⟨.notANumber text, some 0, suggestion⟩)
  | outOfRange : Numeral.Named phrase → (Numeral.read phrase).value = none →
    Calculated phrase (.error (.atWord 0 .outOfRange))
  | value {v : Value} : Numeral.Named phrase → (Numeral.read phrase).value = some v →
    Calculated phrase (.ok v)

/-- The operand holds the words in lowercase with single spaces, and they are read as the words of
the sentence are. -/
theorem FreeOfOperators.calculated {sentence : Text} (h : FreeOfOperators sentence) :
    Calculated sentence (calculate sentence) := by
  by_cases hwords : Text.words sentence = []
  · rw [calculate, evaluate_eq, tokenize_of_no_words hwords]
    exact .nothing hwords
  obtain ⟨text, htokens⟩ := h.tokenize hwords
  have hphrase := Token.phraseWords_of_operand htokens
  have hnamed : Numeral.Named text ↔ Numeral.Named sentence := by
    rw [Numeral.Named, hphrase, Numeral.Named]
  have hvalue : (Numeral.read text).value = (Numeral.read sentence).value := by
    rw [Numeral.read_eq_readWords, hphrase, ← Numeral.read_eq_readWords]
  rw [calculate_of_operand htokens]
  by_cases hname : Numeral.Named sentence
  · rw [Notes.readOperand_of_named {} (hnamed.mpr hname), hvalue]
    cases hv : (Numeral.read sentence).value with
    | none => exact .outOfRange hname hv
    | some v => exact .value hname hv
  · obtain ⟨suggestion, he⟩ := Notes.readOperand_of_not_named {} (mt hnamed.mp hname)
    rw [he]
    exact .notANumber text suggestion hwords hname

/-- A sentence without operators is calculated as it is read as a number phrase: it has the value of
the phrase if some word means a number and the value fits. If the value does not fit, or no word
means a number, or there is no word, it has a fault that says so, and the phrase stands for the
greatest value or for zero. -/
theorem calculating_a_phrase_is_reading_it {sentence : Text} (h : FreeOfOperators sentence) :
    (∀ n, (calculate sentence = .ok n ↔
        Numeral.Named sentence ∧ (Numeral.read sentence).value = some n) ∧
      (calculate sentence = .ok n → Numeral.valueOf sentence = n)) ∧
    (((∃ suggestion, calculate sentence = .error ⟨.outOfRange, some 0, suggestion⟩) ↔
        (Numeral.read sentence).value = none) ∧
      ((Numeral.read sentence).value = none → Numeral.valueOf sentence = .greatest)) ∧
    (((∃ text suggestion, calculate sentence = .error ⟨.notANumber text, some 0, suggestion⟩) ↔
        Text.words sentence ≠ [] ∧ ¬ Numeral.Named sentence) ∧
      (¬ Numeral.Named sentence → Numeral.valueOf sentence = .zero)) ∧
    ((∃ position suggestion, calculate sentence = .error ⟨.nothing, position, suggestion⟩) ↔
      Text.words sentence = []) := by
  have hcalculated := h.calculated
  generalize calculate sentence = result at hcalculated ⊢
  cases hcalculated with
  | nothing hwords =>
    have hname : ¬ Numeral.Named sentence := fun hname => hname.words_ne_nil hwords
    simp [hwords, hname, Numeral.read_of_not_named hname, Numeral.valueOf_of_not_named hname]
  | notANumber text suggestion hwords hname =>
    simp [hwords, hname, Numeral.read_of_not_named hname, Numeral.valueOf_of_not_named hname]
  | outOfRange hname hv =>
    simp [Fault.atWord, hname.words_ne_nil, hname, hv, Numeral.valueOf]
  | value hname hv =>
    simp [hname.words_ne_nil, hname, hv, Numeral.valueOf]

/-- A lone "multiplied" is no operator, and the numeral behind it is too large. -/
theorem too_large_a_phrase :
    let sentence := "Apples multiplied 99999999999999999999".toList
    FreeOfOperators sentence ∧ (Numeral.read sentence).value = none ∧
      (∃ suggestion, calculate sentence = .error ⟨.outOfRange, some 0, suggestion⟩) ∧
      Numeral.valueOf sentence = .greatest := by
  intro sentence
  have htokens : tokenize sentence =
      [⟨.operand "apples multiplied 99999999999999999999".toList, 0⟩] := by
    decide +kernel
  have h : FreeOfOperators sentence := by simp [FreeOfOperators, htokens, Part.isOperand]
  have hv : (Numeral.read sentence).value = none := by decide
  obtain ⟨_, ⟨hfault, hgreatest⟩, _⟩ := calculating_a_phrase_is_reading_it h
  exact ⟨h, hv, hfault.mpr hv, hgreatest hv⟩

end WordArithmetic
