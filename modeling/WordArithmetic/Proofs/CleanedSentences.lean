import WordArithmetic.Proofs.AlikeSentences
import WordArithmetic.Proofs.NumberPhrases
import WordArithmetic.Proofs.Warnings

namespace WordArithmetic

namespace Numeral

theorem isNumberWord_of_mem_recognized {phrase w : Text} (h : w ∈ recognized phrase) :
    isNumberWord w = true :=
  (List.mem_filter.mp h).2

/-- The words of a phrase that mean a number are read back as they are. -/
theorem phraseWords_recognized (phrase : Text) :
    phraseWords (Text.unwords (recognized phrase)) = recognized phrase :=
  phraseWords_unwords_self fun _ hw =>
    isPhraseWord_of_isNumberWord (isNumberWord_of_mem_recognized hw)

theorem recognized_recognized (phrase : Text) :
    recognized (Text.unwords (recognized phrase)) = recognized phrase := by
  rw [recognized, phraseWords_recognized, List.filter_eq_self]
  exact fun w hw => isNumberWord_of_mem_recognized hw

theorem exactValue_recognized (phrase : Text) :
    exactValue (Text.unwords (recognized phrase)) = exactValue phrase := by
  rw [exactValue, phraseWords_recognized, exactOf_recognized]

theorem unknownWords_recognized (phrase : Text) :
    unknownWords (Text.unwords (recognized phrase)) = [] := by
  rw [unknownWords, phraseWords_recognized, List.filter_eq_nil_iff]
  intro w hw
  simp [isNumberWord_of_mem_recognized hw]

theorem recognized_ne_nil {phrase : Text}
    (h : ∃ w ∈ phraseWords phrase, isNumberWord w = true) : recognized phrase ≠ [] := by
  obtain ⟨w, hw, hnumber⟩ := h
  exact List.ne_nil_of_mem (List.mem_filter.mpr ⟨hw, hnumber⟩)

end Numeral

def Part.cleaned : Part → Part
  | .operand text => .operand (Text.unwords (Numeral.recognized text))
  | .operator op phrase => .operator op phrase

theorem Part.cleaned_cleaned (part : Part) : part.cleaned.cleaned = part.cleaned := by
  cases part with
  | operator op phrase => rfl
  | operand text => simp only [cleaned, Numeral.recognized_recognized]

/-- The sentence without the words that its operands pass over. -/
def cleaned (sentence : Text) : Text :=
  Text.unwords ((tokenize sentence).map (·.part.cleaned.text))

theorem Operator.lowercase_phrase_words {phrase : Text} {op : Operator}
    (h : (phrase, op) ∈ phrases) {w : Text} (hw : w ∈ Text.words phrase) :
    Text.lowercase w = w := by
  have hall : ∀ entry ∈ phrases, ∀ w ∈ Text.words entry.1, Text.lowercase w = w := by decide
  exact hall _ h w hw

namespace Token

def cleanedFrom (start : Nat) : List Token → List Token
  | [] => []
  | token :: rest =>
    ⟨token.part.cleaned, start⟩ ::
      cleanedFrom (start + (Text.words token.part.cleaned.text).length) rest

theorem part_cleanedFrom (start : Nat) (tokens : List Token) :
    (cleanedFrom start tokens).map part = tokens.map (·.part.cleaned) := by
  induction tokens generalizing start with
  | nil => rfl
  | cons token rest ih => rw [cleanedFrom, List.map_cons, List.map_cons, ih]

/-- No operator comes about and no operand is lost where words that mean no number are left out. -/
theorem Decomposition.cleanedFrom {start : Nat} {tokens : List Token}
    (h : Decomposition start tokens) (hnamed : OperandsNamed tokens) (start' : Nat) :
    Decomposition start' (cleanedFrom start' tokens) := by
  induction tokens generalizing start start' with
  | nil => exact .nil start'
  | cons token tokens ih =>
    obtain ⟨part, p⟩ := token
    cases part with
    | operator op phrase =>
      refine (ih h.tail hnamed.tail _).cons rfl ?_ (by simp [Part.cleaned])
      intro op' phrase' he
      cases he
      exact h.operators op phrase p (by simp)
    | operand text =>
      refine (ih h.tail hnamed.tail _).cons rfl (by simp [Part.cleaned]) ?_
      intro text' he
      cases he
      have hplain : ∀ w ∈ Numeral.recognized text, Numeral.IsPlain w := by
        intro w hw
        exact Numeral.isPlain_of_isNumberWord (Numeral.isNumberWord_of_mem_recognized hw)
      have hword : ∀ w ∈ Numeral.recognized text, Text.IsWord w := by
        intro w hw
        exact (hplain w hw).isWord
      refine ⟨⟨_, Numeral.recognized_ne_nil (hnamed text p (by simp)), hword, rfl⟩, ?_, ?_⟩
      · rw [Text.words_unwords_of_isWord hword]
        exact Numeral.freeOfPhrases_of_plain hplain
      · intro other q after he
        cases tokens with
        | nil => simp [Token.cleanedFrom] at he
        | cons second tokens =>
          obtain ⟨part, r⟩ := second
          cases part with
          | operator op phrase => simp [Token.cleanedFrom, Part.cleaned] at he
          | operand next => exact h.apart [] text p next r tokens rfl

theorem lowercase_cleanedFrom {start : Nat} {tokens : List Token} (h : Decomposition start tokens)
    (start' : Nat) : ∀ w ∈ wordsOf (cleanedFrom start' tokens), Text.lowercase w = w := by
  induction tokens generalizing start start' with
  | nil => simp [cleanedFrom, wordsOf]
  | cons token tokens ih =>
    intro w hw
    rw [cleanedFrom, wordsOf_cons] at hw
    rcases List.mem_append.mp hw with hw | hw
    · obtain ⟨part, p⟩ := token
      cases part with
      | operator op phrase =>
        have hop := h.operators op phrase p (by simp)
        exact Operator.lowercase_phrase_words (Operator.ofPhrase?_eq_some_iff.mp hop) hw
      | operand text =>
        have hnumber : ∀ v ∈ Numeral.recognized text, isNumberWord v = true := by
          intro v hv
          exact Numeral.isNumberWord_of_mem_recognized hv
        simp only [words, Part.cleaned, Part.text] at hw
        rw [Text.words_unwords_of_isWord fun v hv => NumberWord.isWord (hnumber v hv)] at hw
        exact NumberWord.lowercase (hnumber w hw)
    · exact ih h.tail _ w hw

theorem sentence_cleanedFrom (tokens : List Token) :
    sentence (cleanedFrom 0 tokens) = Text.unwords (tokens.map (·.part.cleaned.text)) := by
  have hparts := congrArg (List.map Part.text) (part_cleanedFrom 0 tokens)
  rw [List.map_map, List.map_map] at hparts
  exact congrArg Text.unwords hparts

/-- A cleaned sentence has the operators of the sentence and its cleaned operands between them. -/
theorem tokenize_cleaned {sentence : Text} (h : OperandsNamed (tokenize sentence)) :
    tokenize (cleaned sentence) = cleanedFrom 0 (tokenize sentence) := by
  have hd := (tokenize_decomposition sentence).1
  rw [cleaned, ← sentence_cleanedFrom]
  exact tokenize_sentence (hd.cleanedFrom h 0) (lowercase_cleanedFrom hd 0)

end Token

/-- Cleaning keeps what an operand counts. -/
theorem Token.alike_cleanedFrom {tokens : List Token} (h : OperandsNamed tokens) (start : Nat) :
    Alike tokens (cleanedFrom start tokens) := by
  refine alike_of_map_part (part_cleanedFrom start tokens) (fun _ _ => rfl) ?_
  intro text p hm
  refine .operand (h text p hm) ?_ (Numeral.exactValue_recognized text).symm
  obtain ⟨w, hw⟩ := List.exists_mem_of_ne_nil _ (Numeral.recognized_ne_nil (h text p hm))
  rw [Numeral.phraseWords_recognized]
  exact ⟨w, hw, Numeral.isNumberWord_of_mem_recognized hw⟩

theorem evaluate_cleaned {sentence : Text} (h : Token.OperandsNamed (tokenize sentence)) :
    Fault.Agree (fun a b => a.value = b.value) (evaluate sentence)
      (evaluate (cleaned sentence)) := by
  apply evaluate_alike
  rw [Token.tokenize_cleaned h]
  exact Token.alike_cleanedFrom h 0

/-- A cleaned sentence holds no word to warn of. -/
theorem Token.warnings_cleanedFrom (start : Nat) (tokens : List Token) :
    warnings (cleanedFrom start tokens) = [] := by
  induction tokens generalizing start with
  | nil => rfl
  | cons token tokens ih =>
    rw [cleanedFrom, warnings_cons, ih, List.append_nil]
    obtain ⟨part, p⟩ := token
    cases part with
    | operator op phrase => rfl
    | operand text =>
      rw [← List.map_eq_nil_iff, word_warnings, Part.cleaned, operands, List.flatMap_singleton,
        List.flatMap_singleton, Numeral.unknownWords_recognized]

theorem warnings_of_cleaned {sentence : Text} {answer : Answer}
    (h : Token.OperandsNamed (tokenize sentence)) (he : evaluate (cleaned sentence) = .ok answer) :
    answer.warnings = [] := by
  obtain ⟨_, _, _, hwarnings⟩ := evaluate_ok_cases he
  rw [hwarnings, Token.tokenize_cleaned h, Token.warnings_cleanedFrom]

theorem cleaned_cleaned {sentence : Text} (h : Token.OperandsNamed (tokenize sentence)) :
    cleaned (cleaned sentence) = cleaned sentence := by
  have hparts := congrArg (List.map (·.cleaned.text)) (Token.part_cleanedFrom 0 (tokenize sentence))
  simp only [List.map_map, Function.comp_def, Part.cleaned_cleaned] at hparts
  rw [cleaned, Token.tokenize_cleaned h, hparts, cleaned]

/-- Leaving out the words that mean no number keeps the value of a sentence, or its fault but for
the position, and leaves nothing to warn of or to leave out. -/
theorem ignored_words_never_matter {sentence : Text}
    (h : ∀ text position, ⟨.operand text, position⟩ ∈ tokenize sentence →
      ∃ w ∈ Numeral.phraseWords text, isNumberWord w = true) :
    (∀ answer, evaluate sentence = .ok answer →
      evaluate (cleaned sentence) = .ok ⟨answer.value, []⟩) ∧
    (∀ fault, evaluate sentence = .error fault →
      ∃ position, evaluate (cleaned sentence) = .error { fault with position := position }) ∧
    cleaned (cleaned sentence) = cleaned sentence := by
  have hagree := evaluate_cleaned h
  have hwarnings (answer : Answer) (he : evaluate (cleaned sentence) = .ok answer) :
      answer.warnings = [] := warnings_of_cleaned h he
  generalize evaluate (cleaned sentence) = result at hagree hwarnings ⊢
  refine ⟨?_, ?_, cleaned_cleaned h⟩
  · intro answer he
    rw [he] at hagree
    cases hagree with
    | @ok _ other hvalue => rw [hvalue, ← hwarnings other rfl]
  · intro fault he
    rw [he] at hagree
    cases hagree with
    | error cause p q suggestion => exact ⟨q, rfl⟩

/-- A lone "multiplied" and a hyphenated operator are left out of their operands, and the division
by zero stays. -/
theorem cleaned_division_by_zero :
    let sentence := "about two multiplied three-plus divided by zero apples".toList
    (∀ text position, ⟨.operand text, position⟩ ∈ tokenize sentence →
      ∃ w ∈ Numeral.phraseWords text, isNumberWord w = true) ∧
    evaluate sentence = .error (.atWord 6 .divisionByZero) ∧
    cleaned sentence = "two three divided by zero".toList ∧
    ∃ position, evaluate (cleaned sentence) = .error ⟨.divisionByZero, position, none⟩ := by
  intro sentence
  have htokens : tokenize sentence = [⟨.operand "about two multiplied three-plus".toList, 0⟩,
      ⟨.operator .divide "divided by".toList, 4⟩, ⟨.operand "zero apples".toList, 6⟩] := by
    decide +kernel
  have hnamed : ∀ text position, ⟨.operand text, position⟩ ∈ tokenize sentence →
      ∃ w ∈ Numeral.phraseWords text, isNumberWord w = true := by
    intro text position hm
    rw [htokens] at hm
    simp only [List.mem_cons, Token.mk.injEq, Part.operand.injEq, List.not_mem_nil, or_false,
      reduceCtorEq, false_and, false_or] at hm
    rcases hm with ⟨rfl, _⟩ | ⟨rfl, _⟩
    · exact ⟨"two".toList, by decide, by decide⟩
    · exact ⟨"zero".toList, by decide, by decide⟩
  have he : evaluate sentence = .error (.atWord 6 .divisionByZero) := by
    rw [evaluate_eq, htokens]
    rfl
  exact ⟨hnamed, he, by rw [cleaned, htokens]; decide +kernel,
    (ignored_words_never_matter hnamed).2.1 _ he⟩

end WordArithmetic
