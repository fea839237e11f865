import WordArithmetic.Proofs.CleanedSentences
import WordArithmetic.Proofs.Sessions

namespace WordArithmetic

namespace Operator

theorem StartsWithPhrase.append {ws rest : List Text} (hws : StartsWithPhrase ws)
    (hrest : StartsWithPhrase rest) : StartsWithPhrase (ws ++ rest) := by
  rcases hws with rfl | ⟨entry, hm, hp⟩
  · exact hrest
  · exact .inr ⟨entry, hm, hp.trans (List.prefix_append ws rest)⟩

end Operator

namespace Token

/-- Where an operator phrase begins, scanning goes on as if nothing stood before it. -/
theorem ofWords_append {rest : List Text} (hrest : Operator.StartsWithPhrase rest) (start : Nat)
    (ws : List Text) :
    ofWords start (ws ++ rest) = ofWords start ws ++ ofWords (start + ws.length) rest := by
  induction ws using Operator.phrase_induction generalizing start with
  | nil => simp [ofWords]
  | operator phrase op later hm ih =>
    rw [List.append_assoc, ofWords_operator hm, ofWords_operator hm, ih, List.length_append,
      Nat.add_assoc]
    rfl
  | operand first later hne hfree hlater ih =>
    rw [List.append_assoc, ofWords_operand hne hfree (hlater.append hrest),
      ofWords_operand hne hfree hlater, ih, List.length_append, Nat.add_assoc]
    rfl

/-- A sentence that is one operand is its words in lowercase, with no operator among them. -/
theorem words_of_operand {sentence text : Text} {position : Nat}
    (h : tokenize sentence = [⟨.operand text, position⟩]) :
    ∃ ws, (Text.words sentence).map Text.lowercase = ws ∧ ws ≠ [] ∧ (∀ w ∈ ws, Text.IsWord w) ∧
      text = Text.unwords ws ∧ Operator.FreeOfPhrases ws := by
  obtain ⟨hd, hwords⟩ := tokenize_decomposition sentence
  rw [h] at hd hwords
  have hm : (⟨.operand text, position⟩ : Token) ∈ [⟨.operand text, position⟩] :=
    List.mem_singleton.mpr rfl
  obtain ⟨ws, hne, hw, rfl⟩ := hd.operands text position hm
  have hfree := hd.free _ position hm
  rw [wordsOf, List.flatMap_singleton, words, Part.text, Text.words_unwords_of_isWord hw] at hwords
  rw [Text.words_unwords_of_isWord hw] at hfree
  exact ⟨ws, hwords.symm, hne, hw, rfl, hfree⟩

/-- A sentence that is one operand is the same operand behind other words. -/
theorem ofWords_of_operand {sentence text : Text} {position : Nat}
    (h : tokenize sentence = [⟨.operand text, position⟩]) (start : Nat) :
    ofWords start ((Text.words sentence).map Text.lowercase) = [⟨.operand text, start⟩] := by
  obtain ⟨ws, hwords, hne, _, rfl, hfree⟩ := words_of_operand h
  rw [hwords, ← List.append_nil ws, ofWords_operand hne hfree (.inl rfl), ofWords, List.append_nil]

theorem phraseWords_of_operand {sentence text : Text} {position : Nat}
    (h : tokenize sentence = [⟨.operand text, position⟩]) :
    Numeral.phraseWords text = Numeral.phraseWords sentence := by
  obtain ⟨ws, hwords, _, hw, rfl, _⟩ := words_of_operand h
  rw [Numeral.phraseWords_unwords hw, Numeral.phraseWords_eq_flatMap_lowercase sentence, hwords]

/-- An operator and an operand behind a sentence are two more tokens, whatever words the sentence
ends with. -/
theorem tokenize_extended {phrase : Text} {op : Operator}
    (hphrase : (phrase, op) ∈ Operator.phrases) (sentence : Text) {addition text : Text}
    {position : Nat} (h : tokenize addition = [⟨.operand text, position⟩]) :
    tokenize (Text.unwords [sentence, phrase, addition]) =
      tokenize sentence ++ [⟨.operator op phrase, (Text.words sentence).length⟩,
        ⟨.operand text, (Text.words sentence).length + (Text.words phrase).length⟩] := by
  have hlower : (Text.words phrase).map Text.lowercase = Text.words phrase := by
    rw [List.map_congr_left fun w hw => Operator.lowercase_phrase_words hphrase hw, List.map_id']
  -- A lone "multiplied" or "divided" at the end of the sentence stays in its operand: no phrase
  -- goes on with the first word of another.
  have hbegins : Operator.StartsWithPhrase
      (Text.words phrase ++ (Text.words addition).map Text.lowercase) :=
    .inr ⟨_, hphrase, List.prefix_append _ _⟩
  rw [tokenize, tokenize, sentenceWords_eq, sentenceWords_eq, Text.words_unwords]
  simp only [List.flatMap_cons, List.flatMap_nil, List.append_nil, List.map_append, hlower]
  rw [ofWords_append hbegins, ofWords_operator hphrase, ofWords_of_operand h, List.length_map,
    Nat.zero_add]

end Token

/-- What becomes of the fault of a sentence when an operator follows at a place: a sentence that
ended too soon now lacks the operand before that operator. -/
def Fault.followedBy (phrase : Text) (place : Nat) (fault : Fault) : Fault :=
  match fault.cause with
  | .nothing | .trailingOperator _ => .atWord place (.missingOperand phrase)
  | _ => fault

theorem Fault.followedBy_eq_self {fault : Fault}
    (h : ¬ (fault.cause = .nothing ∨ ∃ other, fault.cause = .trailingOperator other))
    (phrase : Text) (place : Nat) : fault.followedBy phrase place = fault := by
  unfold followedBy
  split
  · rename_i hcause
    exact absurd (.inl hcause) h
  · rename_i other hcause
    exact absurd (.inr ⟨other, hcause⟩) h
  · rfl

namespace Notes

theorem readOperand_followedBy {notes : Notes} {token : Token} {fault : Fault}
    (h : (notes.readOperand id token).result = .error fault) (phrase : Text) (place : Nat) :
    fault.followedBy phrase place = fault := by
  obtain ⟨part, position⟩ := token
  cases part with
  | operator op other =>
    cases h
    rfl
  | operand text =>
    simp only [readOperand] at h
    split at h
    · split at h
      · cases h
      · cases h
        rfl
    · cases h
      rfl

/-- Where reading steps goes on behind them, so does reading an operand and them. -/
theorem readOperandAnd_append {α : Type} {readBoth readRest : Notes → Noted (List Step)}
    {phrase : Text} {p : Nat} {more : List Token}
    (hrest : ∀ notes : Notes, (readBoth notes).result =
      ((readRest notes).result.mapError (Fault.followedBy phrase p)).bind fun steps =>
        ((readRest notes).notes.readSteps id more).result.map (steps ++ ·))
    {make : Value → List Step → α} {extend : α → List Step → α}
    (hextend : ∀ v steps later, extend (make v steps) later = make v (steps ++ later))
    (notes : Notes) (operand : Token) :
    (notes.readOperandAnd id operand readBoth make).result =
      ((notes.readOperandAnd id operand readRest make).result.mapError
        (Fault.followedBy phrase p)).bind fun a =>
          ((notes.readOperandAnd id operand readRest make).notes.readSteps id more).result.map
            (extend a) := by
  rw [readOperandAnd_result, readOperandAnd_result, readOperandAnd_notes]
  cases hfirst : (notes.readOperand id operand).result with
  | error fault => simp [Except.mapError, Except.bind, readOperand_followedBy hfirst]
  | ok v =>
    have hnext := hrest (notes.readOperand id operand).notes
    simp only [Except.bind, hnext]
    cases (readRest (notes.readOperand id operand).notes).result with
    | error fault => rfl
    | ok steps =>
      simp only [Except.map, Except.mapError]
      cases ((readRest (notes.readOperand id operand).notes).notes.readSteps id more).result with
      | error fault => rfl
      | ok later => simp [hextend]

/-- Reading goes on at an operator behind the tokens from what they were read as. -/
theorem readSteps_append (notes : Notes) (tokens : List Token) (op : Operator) (phrase : Text)
    (p : Nat) (more : List Token) :
    (notes.readSteps id (tokens ++ ⟨.operator op phrase, p⟩ :: more)).result =
      ((notes.readSteps id tokens).result.mapError (Fault.followedBy phrase p)).bind fun steps =>
        ((notes.readSteps id tokens).notes.readSteps id
          (⟨.operator op phrase, p⟩ :: more)).result.map (steps ++ ·) := by
  match tokens with
  | [] =>
    have hnil : notes.readSteps id [] = ⟨.ok [], notes⟩ := rfl
    simp only [hnil, Except.mapError, Except.bind, List.nil_append]
    cases (notes.readSteps id (⟨.operator op phrase, p⟩ :: more)).result <;> rfl
  | ⟨.operand text, q⟩ :: rest => rfl
  | [⟨.operator op' phrase', q⟩] => rfl
  | ⟨.operator op' phrase', q⟩ :: operand :: rest =>
    rw [List.cons_append, List.cons_append, readSteps, readSteps]
    apply readOperandAnd_append
    · intro middle
      exact readSteps_append middle rest op phrase p more
    · intro v steps later
      rfl

theorem analyze_append (notes : Notes) (tokens : List Token) (op : Operator) (phrase : Text)
    (p : Nat) (more : List Token) :
    (notes.analyze id (tokens ++ ⟨.operator op phrase, p⟩ :: more)).result =
      ((notes.analyze id tokens).result.mapError (Fault.followedBy phrase p)).bind fun e =>
        ((notes.analyze id tokens).notes.readSteps id
          (⟨.operator op phrase, p⟩ :: more)).result.map fun steps =>
            ⟨e.first, e.steps ++ steps⟩ := by
  cases tokens with
  | nil => rfl
  | cons first rest =>
    rw [List.cons_append, analyze, analyze]
    apply readOperandAnd_append
    · intro middle
      exact readSteps_append middle rest op phrase p more
    · intro v steps later
      rfl

end Notes

/-- A warning of a sentence that stands behind other words. -/
def Warning.behind (words : Nat) (warning : Warning) : Warning :=
  { warning with position := words + warning.position }

theorem Warning.ofOperand_behind (text : Text) (words : Nat) :
    ofOperand text words = (ofOperand text 0).map (behind words) := by
  rw [ofOperand, ofOperand, List.map_flatMap, List.zipIdx_eq_map_add, List.flatMap_map]
  congr 1
  funext entry
  obtain ⟨word, place⟩ := entry
  simp [behind]

namespace Reduction

/-- More steps are taken from the result of those before them. -/
theorem ofSteps_append (value : Value) (steps later : List Step) :
    (ofSteps value (steps ++ later)).result =
      (ofSteps value steps).result.bind fun v => (ofSteps v later).result := by
  induction steps generalizing value with
  | nil => rfl
  | cons step steps ih =>
    rw [List.cons_append, ofSteps, ofSteps]
    cases step.op.apply value step.value with
    | error cause => rfl
    | ok next => exact ih next

theorem ofSteps_followedBy {value : Value} {steps : List Step} {fault : Fault}
    (h : (ofSteps value steps).result = .error fault) (phrase : Text) (place : Nat) :
    fault.followedBy phrase place = fault := by
  induction steps generalizing value with
  | nil => cases h
  | cons step steps ih =>
    rw [ofSteps] at h
    cases happly : step.op.apply value step.value with
    | ok next =>
      rw [happly] at h
      exact ih h
    | error cause =>
      rw [happly] at h
      cases h
      rcases Operator.apply_error_cases happly with rfl | rfl <;> rfl

end Reduction

def Answer.step (answer : Answer) (op : Operator) (place : Nat) (operand : Answer) :
    Except Fault Answer :=
  match op.apply answer.value operand.value with
  | .ok v => .ok ⟨v, answer.warnings ++ operand.warnings.map (Warning.behind place)⟩
  | .error cause => .error (.atWord place cause)

section

variable {addition text : Text} {position : Nat} {n : Value}
  (haddition : tokenize addition = [⟨.operand text, position⟩])
  (hnamed : ∃ w ∈ Numeral.phraseWords text, isNumberWord w = true)
  (hvalue : (Numeral.read addition).value = some n)

include haddition hnamed hvalue

theorem Notes.readOperand_of_addition (notes : Notes) (place : Nat) :
    (notes.readOperand id ⟨.operand text, place⟩).result = .ok n := by
  have hname : namesNumber text = true := by
    rwa [namesNumber_eq, List.any_eq_true]
  have hread : (Numeral.read text).value = some n := by
    rw [← hvalue, Numeral.read_value, Numeral.read_value, Numeral.exactValue,
      Token.phraseWords_of_operand haddition, Numeral.exactValue]
  simp [readOperand, hname, hread]

theorem evaluate_addition : evaluate addition = .ok ⟨n, Warning.ofOperand text 0⟩ := by
  have hplace : position = 0 := by
    have hd := (Token.tokenize_decomposition addition).1
    rw [haddition] at hd
    exact hd.position
  subst hplace
  have hanalyze : (Notes.analyze id {} [⟨.operand text, 0⟩]).result = .ok ⟨n, []⟩ := by
    rw [Notes.analyze_result, Notes.readOperand_of_addition haddition hnamed hvalue]
    rfl
  rw [evaluate_eq, haddition, Notes.analyze_warnings {} hanalyze, hanalyze, Token.warnings_operand]
  rfl

/-- Evaluating the longer sentence is taking one step more on the answer of the shorter. -/
theorem evaluate_extended {phrase : Text} {op : Operator}
    (hphrase : (phrase, op) ∈ Operator.phrases) (sentence : Text) :
    evaluate (Text.unwords [sentence, phrase, addition]) =
      ((evaluate sentence).mapError
        (Fault.followedBy phrase (Text.words sentence).length)).bind fun answer =>
          answer.step op ((Text.words sentence).length + (Text.words phrase).length)
            ⟨n, Warning.ofOperand text 0⟩ := by
  rw [evaluate_eq, Token.tokenize_extended hphrase sentence haddition, evaluate_eq sentence]
  generalize (Text.words sentence).length = place
  generalize hbehind : place + (Text.words phrase).length = behind
  have hlater (notes : Notes) :
      (notes.readSteps id [⟨.operator op phrase, place⟩, ⟨.operand text, behind⟩]).result =
        .ok [⟨op, n, behind⟩] := by
    rw [Notes.readSteps_result, Notes.readOperand_of_addition haddition hnamed hvalue]
    rfl
  have hanalyze := Notes.analyze_append {} (tokenize sentence) op phrase place
    [⟨.operand text, behind⟩]
  cases he : (Notes.analyze id {} (tokenize sentence)).result with
  | error fault =>
    rw [he] at hanalyze
    rw [hanalyze]
    rfl
  | ok e =>
    rw [he, Except.mapError, Except.bind, hlater, Except.map] at hanalyze
    rw [Notes.analyze_warnings {} hanalyze, hanalyze, Notes.analyze_warnings {} he,
      Token.warnings_append]
    simp only [Except.bind, Expression.reduce, Expression.reduction, Reduction.ofSteps_append]
    cases hv : (Reduction.ofSteps e.first e.steps).result with
    | error fault =>
      simp [Except.map, Except.mapError, Reduction.ofSteps_followedBy hv]
    | ok v =>
      have hwarnings : Token.warnings [⟨.operator op phrase, place⟩, ⟨.operand text, behind⟩] =
          (Warning.ofOperand text 0).map (Warning.behind behind) :=
        (Token.warnings_operand text behind).trans (Warning.ofOperand_behind text behind)
      rw [hwarnings]
      simp only [Except.map, Except.mapError, Answer.step, Reduction.ofSteps, List.append_assoc]
      cases op.apply v n <;> rfl

end

/-- An operator and an operand behind a sentence are one step more on its answer. A fault of the
sentence stays, unless it was that the sentence ended too soon: then the operand before the new
operator is missing. -/
theorem one_more_step {phrase : Text} {op : Operator} (hphrase : (phrase, op) ∈ Operator.phrases)
    {addition text : Text} {position : Nat} {n : Value}
    (haddition : tokenize addition = [⟨.operand text, position⟩])
    (hnamed : ∃ w ∈ Numeral.phraseWords text, isNumberWord w = true)
    (hvalue : (Numeral.read addition).value = some n) (sentence : Text) :
    ∃ own, evaluate addition = .ok ⟨n, own⟩ ∧
      let longer := Text.unwords [sentence, phrase, addition]
      let place := (Text.words sentence).length
      let behind := place + (Text.words phrase).length
      (∀ v warnings x, evaluate sentence = .ok ⟨v, warnings⟩ → op.apply v n = .ok x →
        evaluate longer = .ok ⟨x, warnings ++ own.map (Warning.behind behind)⟩) ∧
      (∀ v warnings cause, evaluate sentence = .ok ⟨v, warnings⟩ → op.apply v n = .error cause →
        evaluate longer = .error ⟨cause, some behind, none⟩) ∧
      ∀ fault, evaluate sentence = .error fault →
        ((fault.cause = .nothing ∨ ∃ other, fault.cause = .trailingOperator other) →
          evaluate longer = .error ⟨.missingOperand phrase, some place, none⟩) ∧
        (¬ (fault.cause = .nothing ∨ ∃ other, fault.cause = .trailingOperator other) →
          evaluate longer = .error fault) := by
  refine ⟨_, evaluate_addition haddition hnamed hvalue, ?_⟩
  intro longer place behind
  have hlonger : evaluate longer = _ := evaluate_extended haddition hnamed hvalue hphrase sentence
  refine ⟨?_, ?_, ?_⟩
  · intro v warnings x he happly
    rw [hlonger, he]
    simp only [Except.mapError, Except.bind, Answer.step, happly]
    rfl
  · intro v warnings cause he happly
    rw [hlonger, he]
    simp only [Except.mapError, Except.bind, Answer.step, happly]
    rfl
  · intro fault he
    rw [hlonger, he]
    constructor
    · rintro (hcause | ⟨other, hcause⟩)
      · rw [Except.mapError, Fault.followedBy, hcause]
        rfl
      · rw [Except.mapError, Fault.followedBy, hcause]
        rfl
    · intro hother
      rw [Except.mapError, Fault.followedBy_eq_self hother]
      rfl

/-- A lone "multiplied" at the end of the sentence stays a word that is passed over. -/
theorem one_more_multiplication :
    let times : Text × Operator := ("times".toList, .multiply)
    let three : Value := ⟨3, by decide, by decide⟩
    times ∈ Operator.phrases ∧
      tokenize "fourty three".toList = [⟨.operand "fourty three".toList, 0⟩] ∧
      (∃ w ∈ Numeral.phraseWords "fourty three".toList, isNumberWord w = true) ∧
      (Numeral.read "fourty three".toList).value = some three ∧
      evaluate (Text.unwords ["two tree multiplied".toList, times.1, "fourty three".toList]) =
        .ok ⟨⟨6, by decide, by decide⟩, [⟨"tree".toList, 1, some "three".toList⟩,
          ⟨"multiplied".toList, 2, none⟩, ⟨"fourty".toList, 4, some "forty".toList⟩]⟩ := by
  intro times three
  have hphrase : times ∈ Operator.phrases := by decide
  have haddition : tokenize "fourty three".toList = [⟨.operand "fourty three".toList, 0⟩] := by
    decide +kernel
  have hnamed : ∃ w ∈ Numeral.phraseWords "fourty three".toList, isNumberWord w = true :=
    ⟨"three".toList, by decide, by decide⟩
  have hvalue : (Numeral.read "fourty three".toList).value = some three := by decide
  have htokens : tokenize "two tree multiplied".toList =
      [⟨.operand "two tree multiplied".toList, 0⟩] := by
    decide +kernel
  have he : evaluate "two tree multiplied".toList = .ok ⟨⟨2, by decide, by decide⟩,
      [⟨"tree".toList, 1, some "three".toList⟩, ⟨"multiplied".toList, 2, none⟩]⟩ := by
    rw [evaluate_eq, htokens]
    rfl
  have hown : evaluate "fourty three".toList =
      .ok ⟨three, [⟨"fourty".toList, 0, some "forty".toList⟩]⟩ := by
    rw [evaluate_eq, haddition]
    rfl
  obtain ⟨own, ho, hstep, _⟩ :=
    one_more_step hphrase haddition hnamed hvalue "two tree multiplied".toList
  cases hown.symm.trans ho
  exact ⟨hphrase, haddition, hnamed, hvalue, hstep _ _ _ he rfl⟩

end WordArithmetic
