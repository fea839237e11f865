import WordArithmetic.Proofs.CleanedSentences
import WordArithmetic.Proofs.SkippedWords

namespace WordArithmetic

namespace Numeral

def respaced (text : Text) : Text :=
  Text.unwords (Text.words (Text.spaced text))

theorem words_respaced (text : Text) : Text.words (respaced text) = Text.words (Text.spaced text) :=
  Text.words_unwords_of_isWord fun _ hw => Text.isWord_of_mem hw

theorem phraseWords_respaced (text : Text) : phraseWords (respaced text) = phraseWords text := by
  rw [phraseWords_eq_flatMap, words_respaced, ← phraseWords_eq_flatMap, phraseWords_spaced]

theorem exactValue_respaced (text : Text) : exactValue (respaced text) = exactValue text := by
  rw [exactValue, phraseWords_respaced, exactValue]

theorem unknownWords_respaced (text : Text) : unknownWords (respaced text) = unknownWords text := by
  rw [unknownWords, phraseWords_respaced, unknownWords]

theorem words_spaced_ne_nil {text : Text} (h : ∃ w ∈ phraseWords text, isNumberWord w = true) :
    Text.words (Text.spaced text) ≠ [] := by
  obtain ⟨w, hw, _⟩ := h
  intro hnone
  rw [← phraseWords_spaced, phraseWords_eq_flatMap, hnone] at hw
  cases hw

end Numeral

namespace Operator

theorem words_spaced_phrase {phrase : Text} {op : Operator} (h : (phrase, op) ∈ phrases) :
    ((Text.words phrase).flatMap fun w => Text.words (Text.spaced w)) = Text.words phrase := by
  have hall : ∀ entry ∈ phrases, Text.spaced entry.1 = entry.1 := by decide
  rw [← Text.words_spaced, hall _ h]

/-- An operator phrase holds no hyphen, so none of its words is divided. -/
theorem StartsWithPhrase.spaced {ws : List Text} (h : StartsWithPhrase ws) :
    StartsWithPhrase (ws.flatMap fun w => Text.words (Text.spaced w)) := by
  rcases h with rfl | ⟨entry, hm, rest, rfl⟩
  · exact .inl rfl
  · refine .inr ⟨entry, hm, ?_⟩
    rw [List.flatMap_append, words_spaced_phrase hm]
    exact List.prefix_append _ _

/-- The words of operators are words of phrases that mean no number. -/
theorem phrase_word_unknown {phrase : Text} {op : Operator} (h : (phrase, op) ∈ phrases) {w : Text}
    (hw : w ∈ Text.words phrase) : Numeral.phraseWords w = [w] ∧ isNumberWord w = false := by
  have hall : ∀ entry ∈ phrases, ∀ w ∈ Text.words entry.1,
      Numeral.phraseWords w = [w] ∧ isNumberWord w = false := by
    decide
  exact hall _ h w hw

end Operator

theorem sentenceWords_spaced (sentence : Text) : sentenceWords (Text.spaced sentence) =
    (sentenceWords sentence).flatMap fun w => Text.words (Text.spaced w) := by
  rw [sentenceWords_eq, ← Text.words_lowercase, Text.lowercase_spaced, Text.words_spaced,
    Text.words_lowercase, ← sentenceWords_eq]

/-- No operator phrase comes about where the hyphens of an operand become spaces. -/
def HidesNoOperator (sentence : Text) : Prop :=
  ∀ text position, ⟨.operand text, position⟩ ∈ tokenize sentence →
    Operator.FreeOfPhrases (Text.words (Text.spaced text))

def Part.respaced : Part → Part
  | .operand text => .operand (Numeral.respaced text)
  | .operator op phrase => .operator op phrase

namespace Token

/-- Where spaces for hyphens bring no operator phrase about and leave no operand empty, the operands
stay apart. -/
theorem Decomposition.ofWords_spaced {start : Nat} {tokens : List Token}
    (h : Decomposition start tokens) (hnamed : OperandsNamed tokens)
    (hfree : ∀ text position, ⟨.operand text, position⟩ ∈ tokens →
      Operator.FreeOfPhrases (Text.words (Text.spaced text))) (start' : Nat) :
    (ofWords start' ((wordsOf tokens).flatMap fun w => Text.words (Text.spaced w))).map part =
      tokens.map (·.part.respaced) := by
  induction tokens generalizing start start' with
  | nil => simp [wordsOf, ofWords]
  | cons token tokens ih =>
    have hrest := ih h.tail hnamed.tail fun text position hm =>
      hfree text position (List.mem_cons_of_mem token hm)
    rw [wordsOf_cons, List.flatMap_append]
    obtain ⟨part, p⟩ := token
    cases part with
    | operator op phrase =>
      have hm := Operator.ofPhrase?_eq_some_iff.mp (h.operators op phrase p (by simp))
      rw [words, Part.text, Operator.words_spaced_phrase hm, ofWords_operator hm, List.map_cons,
        List.map_cons, hrest]
      rfl
    | operand text =>
      have hne := Numeral.words_spaced_ne_nil (hnamed text p (by simp))
      rw [words, Part.text, ← Text.words_spaced, ofWords_operand hne (hfree text p (by simp))
        h.startsWithPhrase.spaced, List.map_cons, List.map_cons, hrest]
      rfl

/-- Exactly if none of its operands hides an operator, a sentence with spaces for its hyphens has the
operators of the sentence, and its operands between them. -/
theorem tokenize_spaced_iff {sentence : Text} (hnamed : OperandsNamed (tokenize sentence)) :
    (tokenize (Text.spaced sentence)).map part = (tokenize sentence).map (·.part.respaced) ↔
      HidesNoOperator sentence := by
  constructor
  · intro hparts text position hm
    have hspaced : (Part.operand text).respaced ∈ (tokenize (Text.spaced sentence)).map part := by
      rw [hparts]
      exact List.mem_map_of_mem hm
    obtain ⟨⟨_, q⟩, hoperand, rfl⟩ := List.mem_map.mp hspaced
    have hfree := (tokenize_decomposition (Text.spaced sentence)).1.free _ q hoperand
    rwa [Numeral.words_respaced] at hfree
  · intro h
    obtain ⟨hd, hwords⟩ := tokenize_decomposition sentence
    rw [tokenize, sentenceWords_spaced, sentenceWords_eq, ← hwords]
    exact hd.ofWords_spaced hnamed h 0

theorem alike_respaced {tokens others : List Token} (hnamed : OperandsNamed tokens)
    (hparts : others.map part = tokens.map (·.part.respaced)) : Alike tokens others := by
  refine alike_of_map_part hparts (fun _ _ => rfl) ?_
  intro text p hm
  have hnamed := hnamed text p hm
  refine .operand hnamed ?_ (Numeral.exactValue_respaced text).symm
  rwa [Numeral.phraseWords_respaced]

/-- The operands pass over the same words. -/
theorem passedOver_respaced {tokens others : List Token}
    (hparts : others.map part = tokens.map (·.part.respaced)) :
    passedOver others = passedOver tokens := by
  induction tokens generalizing others with
  | nil =>
    rw [List.map_nil, List.map_eq_nil_iff] at hparts
    rw [hparts]
  | cons token tokens ih =>
    obtain ⟨⟨part', q⟩, others, rfl, hpart, hrest⟩ := List.map_eq_cons_iff.mp hparts
    obtain ⟨part, p⟩ := token
    cases hpart
    cases part with
    | operator op phrase =>
      change passedOver others = passedOver tokens
      exact ih hrest
    | operand text =>
      change Numeral.unknownWords (Numeral.respaced text) ++ passedOver others =
        Numeral.unknownWords text ++ passedOver tokens
      rw [Numeral.unknownWords_respaced, ih hrest]

/-- What an operand passes over is warned of at one of its words. -/
theorem exists_warning {tokens : List Token} {text w : Text} {position : Nat}
    (hm : ⟨.operand text, position⟩ ∈ tokens) (hw : w ∈ Numeral.unknownWords text) :
    ∃ warning ∈ warnings tokens, warning.word = w ∧ position ≤ warning.position ∧
      warning.position < position + (Text.words text).length := by
  rw [Numeral.unknownWords_eq_flatMap] at hw
  obtain ⟨v, hv, hw⟩ := List.mem_flatMap.mp hw
  obtain ⟨k, hk⟩ := List.mem_iff_getElem?.mp hv
  have hlt := (List.getElem?_eq_some_iff.mp hk).1
  refine ⟨⟨w, position + k, Correction.suggestion w⟩, ?_, rfl, Nat.le_add_right position k, ?_⟩
  · exact List.mem_flatMap.mpr ⟨_, mem_operandWords hm hk, List.mem_map.mpr ⟨w, hw, rfl⟩⟩
  · exact Nat.add_lt_add_left hlt position

end Token

/-- An operator phrase that an operand holds once its hyphens are spaces is passed over with it. -/
theorem Numeral.unknown_of_hidden_phrase {text : Text} {entry : Text × Operator}
    (hentry : entry ∈ Operator.phrases)
    (hin : Text.words entry.1 <:+: Text.words (Text.spaced text)) {w : Text}
    (hw : w ∈ Text.words entry.1) : w ∈ unknownWords text := by
  obtain ⟨hself, hnumber⟩ := Operator.phrase_word_unknown hentry hw
  refine List.mem_filter.mpr ⟨?_, by simp [hnumber]⟩
  rw [← phraseWords_spaced, phraseWords_eq_flatMap]
  exact List.mem_flatMap.mpr ⟨w, hin.subset hw, by simp [hself]⟩

theorem Token.operandsNamed_of_evaluate {sentence : Text} {answer : Answer}
    (h : evaluate sentence = .ok answer) : OperandsNamed (tokenize sentence) :=
  (means_of_evaluate h).operands.named

/-- A hyphen is a space to a sentence unless it keeps an operator phrase from being one: without
such phrases the sentence has the same value with spaces for its hyphens, and the same words to warn
of. With one, the phrase is no operator: each of its words is passed over and warned of. -/
theorem hyphens_are_spaces_but_hide_operators {sentence : Text} {answer : Answer}
    (h : evaluate sentence = .ok answer) :
    (HidesNoOperator sentence → ∃ warnings,
      evaluate (Text.spaced sentence) = .ok ⟨answer.value, warnings⟩ ∧
        warnings.map Warning.word = answer.warnings.map Warning.word) ∧
    ∀ text position entry, ⟨.operand text, position⟩ ∈ tokenize sentence →
      entry ∈ Operator.phrases → Text.words entry.1 <:+: Text.words (Text.spaced text) →
      ∀ w ∈ Text.words entry.1, ∃ warning ∈ answer.warnings, warning.word = w ∧
        position ≤ warning.position ∧ warning.position < position + (Text.words text).length := by
  obtain ⟨_, _, _, hwarnings⟩ := evaluate_ok_cases h
  constructor
  · intro hhides
    have hnamed := Token.operandsNamed_of_evaluate h
    have hparts := (Token.tokenize_spaced_iff hnamed).mpr hhides
    have hagree := evaluate_alike (Token.alike_respaced hnamed hparts)
    cases hspaced : evaluate (Text.spaced sentence) with
    | error fault =>
      rw [h, hspaced] at hagree
      cases hagree
    | ok other =>
      rw [h, hspaced] at hagree
      obtain ⟨_, _, _, hother⟩ := evaluate_ok_cases hspaced
      cases hagree with
      | ok hvalue =>
        refine ⟨other.warnings, by rw [hvalue], ?_⟩
        rw [hwarnings, hother, Token.word_warnings, Token.word_warnings]
        exact Token.passedOver_respaced hparts
  · intro text position entry hm hentry hin w hw
    rw [hwarnings]
    exact Token.exists_warning hm (Numeral.unknown_of_hidden_phrase hentry hin hw)

/-- A lone hyphen and a hyphenated "multiplied" change nothing, and a hyphen that parts "multiplied"
from "by" hides the operator. -/
theorem lone_hyphen_and_hidden_product :
    let plain := "Twenty-Five - times multiplied-two".toList
    let hidden := "ten multiplied -by-two".toList
    let fifty : Value := ⟨50, by decide, by decide⟩
    let twelve : Value := ⟨12, by decide, by decide⟩
    let product := "multiplied by".toList
    (evaluate plain = .ok ⟨fifty, [⟨"multiplied".toList, 3, none⟩]⟩ ∧ HidesNoOperator plain ∧
      ∃ warnings, evaluate (Text.spaced plain) = .ok ⟨fifty, warnings⟩ ∧
        warnings.map Warning.word = ["multiplied".toList]) ∧
    evaluate hidden = .ok ⟨twelve, [⟨"multiplied".toList, 1, none⟩, ⟨"by".toList, 2, none⟩]⟩ ∧
      ⟨.operand hidden, 0⟩ ∈ tokenize hidden ∧ (product, .multiply) ∈ Operator.phrases ∧
      Text.words product <:+: Text.words (Text.spaced hidden) ∧
      ∀ w ∈ Text.words product, ∃ warning ∈ ([⟨"multiplied".toList, 1, none⟩,
        ⟨"by".toList, 2, none⟩] : List Warning), warning.word = w := by
  intro plain hidden fifty twelve product
  have hplain : tokenize plain = [⟨.operand "twenty-five -".toList, 0⟩,
      ⟨.operator .multiply "times".toList, 2⟩, ⟨.operand "multiplied-two".toList, 3⟩] := by
    decide +kernel
  have hhidden : tokenize hidden = [⟨.operand hidden, 0⟩] := by decide +kernel
  have hfifty : evaluate plain = .ok ⟨fifty, [⟨"multiplied".toList, 3, none⟩]⟩ := by
    rw [evaluate_eq, hplain]
    rfl
  have htwelve : evaluate hidden =
      .ok ⟨twelve, [⟨"multiplied".toList, 1, none⟩, ⟨"by".toList, 2, none⟩]⟩ := by
    rw [evaluate_eq, hhidden]
    rfl
  have hfree : HidesNoOperator plain := by
    intro text position hm
    rw [hplain] at hm
    simp only [List.mem_cons, Token.mk.injEq, Part.operand.injEq, List.not_mem_nil, or_false,
      reduceCtorEq, false_and, false_or] at hm
    rcases hm with ⟨rfl, _⟩ | ⟨rfl, _⟩
    · unfold Operator.FreeOfPhrases
      decide +kernel
    · unfold Operator.FreeOfPhrases
      decide +kernel
  have hm : ⟨.operand hidden, 0⟩ ∈ tokenize hidden := by
    rw [hhidden]
    exact List.mem_singleton.mpr rfl
  have hproduct : (product, Operator.multiply) ∈ Operator.phrases := by decide
  have hin : Text.words product <:+: Text.words (Text.spaced hidden) :=
    ⟨["ten".toList], ["two".toList], by decide⟩
  obtain ⟨hsame, _⟩ := hyphens_are_spaces_but_hide_operators hfifty
  obtain ⟨_, hwarned⟩ := hyphens_are_spaces_but_hide_operators htwelve
  refine ⟨⟨hfifty, hfree, hsame hfree⟩, htwelve, hm, hproduct, hin, ?_⟩
  intro w hw
  obtain ⟨warning, hmem, hword, _⟩ := hwarned hidden 0 (product, .multiply) hm hproduct hin w hw
  exact ⟨warning, hmem, hword⟩

/-- Between hyphens "times" is no operator: its operands are added up. With spaces they are
multiplied. -/
theorem hyphenated_product_is_added_up :
    evaluate "two-times-three".toList =
        .ok ⟨⟨5, by decide, by decide⟩, [⟨"times".toList, 0, none⟩]⟩ ∧
      Text.spaced "two-times-three".toList = "two times three".toList ∧
      evaluate "two times three".toList = .ok ⟨⟨6, by decide, by decide⟩, []⟩ := by
  have hhyphens : tokenize "two-times-three".toList = [⟨.operand "two-times-three".toList, 0⟩] := by
    decide +kernel
  have hspaces : tokenize "two times three".toList = [⟨.operand "two".toList, 0⟩,
      ⟨.operator .multiply "times".toList, 1⟩, ⟨.operand "three".toList, 2⟩] := by
    decide +kernel
  refine ⟨?_, by decide, ?_⟩
  · rw [evaluate_eq, hhyphens]
    rfl
  · rw [evaluate_eq, hspaces]
    rfl

end WordArithmetic
