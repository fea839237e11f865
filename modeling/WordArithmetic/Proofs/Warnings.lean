import WordArithmetic.Proofs.Decomposition
import WordArithmetic.Proofs.SentenceMeaning

namespace WordArithmetic

def Warning.ofWord (word : Text) (place : Nat) : List Warning :=
  (Numeral.unknownWords word).map fun unknown => ⟨unknown, place, Correction.suggestion unknown⟩

/-- The words that a phrase passes over are those of its words, each taken by itself. -/
theorem Numeral.unknownWords_eq_flatMap (t : Text) :
    unknownWords t = (Text.words t).flatMap unknownWords := by
  rw [unknownWords, phraseWords_eq_flatMap, List.filter_flatMap]
  rfl

theorem Numeral.unknownWords_lowercase (t : Text) :
    unknownWords (Text.lowercase t) = unknownWords t := by
  rw [unknownWords, phraseWords_lowercase, unknownWords]

namespace Warning

@[simp]
theorem map_counted_id (warnings : List Warning) : warnings.map (counted id) = warnings :=
  List.map_id warnings

theorem word_ofWord (word : Text) (place : Nat) :
    (ofWord word place).map Warning.word = Numeral.unknownWords word := by
  simp [ofWord, Function.comp_def]

/-- Of words at different places, those at one place have the warnings with this position. -/
theorem filter_ofWord {placed : List (Text × Nat)} (h : placed.Pairwise fun a b => a.2 < b.2)
    {w : Text} {place : Nat} (hm : (w, place) ∈ placed) :
    (placed.flatMap fun (w, place) => ofWord w place).filter (·.position = place) =
      ofWord w place := by
  have hsame (v : Text) : (ofWord v place).filter (·.position = place) = ofWord v place := by
    simp [ofWord, List.filter_eq_self]
  have hother {q : Nat} (hq : q ≠ place) (v : Text) :
      (ofWord v q).filter (·.position = place) = [] := by
    simp [ofWord, hq]
  induction placed with
  | nil => simp at hm
  | cons entry placed ih =>
    obtain ⟨v, q⟩ := entry
    obtain ⟨hfirst, hrest⟩ := List.pairwise_cons.mp h
    rw [List.flatMap_cons, List.filter_append]
    rcases List.mem_cons.mp hm with he | hm
    · cases he
      have hnone : (placed.flatMap fun (w, place) => ofWord w place).filter
          (·.position = place) = [] := by
        rw [List.filter_flatMap, List.flatMap_eq_nil_iff]
        rintro ⟨u, r⟩ hu
        have hlt := hfirst (u, r) hu
        exact hother (by omega) u
      rw [hsame, hnone, List.append_nil]
    · have hlt := hfirst _ hm
      rw [hother (by omega), List.nil_append, ih hrest hm]

end Warning

namespace Token

def operands (tokens : List Token) : List Text :=
  tokens.flatMap fun token =>
    match token.part with
    | .operand text => [text]
    | .operator .. => []

def operandWords (tokens : List Token) : List (Text × Nat) :=
  tokens.flatMap fun token =>
    match token.part with
    | .operand text => (Text.words text).zipIdx token.position
    | .operator .. => []

def warnings (tokens : List Token) : List Warning :=
  (operandWords tokens).flatMap fun (word, place) => Warning.ofWord word place

theorem warnings_append (before after : List Token) :
    warnings (before ++ after) = warnings before ++ warnings after := by
  rw [warnings, operandWords, List.flatMap_append, List.flatMap_append]
  rfl

theorem warnings_cons (token : Token) (tokens : List Token) :
    warnings (token :: tokens) = warnings [token] ++ warnings tokens :=
  warnings_append [token] tokens

theorem warnings_operand (text : Text) (position : Nat) :
    warnings [⟨.operand text, position⟩] = Warning.ofOperand text position := by
  rw [warnings, operandWords, List.flatMap_singleton]
  rfl

/-- The warnings name what the operands pass over, each word as often as it occurs. -/
theorem word_warnings (tokens : List Token) :
    (warnings tokens).map Warning.word = (operands tokens).flatMap Numeral.unknownWords := by
  rw [warnings, operandWords, operands, List.map_flatMap, List.flatMap_assoc, List.flatMap_assoc]
  congr 1
  funext ⟨part, position⟩
  cases part with
  | operator op phrase => rfl
  | operand text =>
    have hfirst := List.zipIdx_map_fst position (Text.words text)
    simp only [Warning.word_ofWord, List.flatMap_singleton]
    rw [Numeral.unknownWords_eq_flatMap text, ← hfirst, List.flatMap_map, hfirst]

theorem mem_operandWords {tokens : List Token} {text w : Text} {position k : Nat}
    (hm : ⟨.operand text, position⟩ ∈ tokens) (hk : (Text.words text)[k]? = some w) :
    (w, position + k) ∈ operandWords tokens := by
  refine List.mem_flatMap.mpr ⟨_, hm, ?_⟩
  simpa [List.mk_mem_zipIdx_iff_le_and_getElem?_sub] using hk

/-- Operators take words out of the sentence and move none. -/
theorem Decomposition.operandWords_sublist {start : Nat} {tokens : List Token}
    (h : Decomposition start tokens) :
    (operandWords tokens).Sublist ((wordsOf tokens).zipIdx start) := by
  induction tokens generalizing start with
  | nil => exact List.Sublist.refl _
  | cons token tokens ih =>
    rw [operandWords, List.flatMap_cons, wordsOf_cons, List.zipIdx_append]
    refine List.Sublist.append ?_ (ih h.tail)
    have hposition := h.position
    obtain ⟨part, p⟩ := token
    subst hposition
    cases part with
    | operand text => exact List.Sublist.refl _
    | operator op phrase => exact List.nil_sublist _

theorem Decomposition.places_increase {start : Nat} {tokens : List Token}
    (h : Decomposition start tokens) :
    (operandWords tokens).Pairwise fun a b => a.2 < b.2 := by
  refine List.Pairwise.sublist h.operandWords_sublist ?_
  rw [← List.pairwise_map, List.zipIdx_map_snd]
  exact List.pairwise_lt_range'

theorem Decomposition.warnings_sorted {start : Nat} {tokens : List Token}
    (h : Decomposition start tokens) :
    (warnings tokens).Pairwise fun a b => a.position ≤ b.position := by
  refine List.pairwise_flatMap.mpr ⟨?_, h.places_increase.imp ?_⟩
  · rintro ⟨w, place⟩ _
    simp only [Warning.ofWord, List.pairwise_map]
    exact List.pairwise_of_forall fun _ _ => Nat.le_refl place
  · rintro ⟨v, p⟩ ⟨w, q⟩ hlt a ha b hb
    obtain ⟨_, _, rfl⟩ := List.mem_map.mp ha
    obtain ⟨_, _, rfl⟩ := List.mem_map.mp hb
    exact Nat.le_of_lt hlt

/-- A word of an operand is the word of the sentence at its place, in lowercase. -/
theorem word_at_place {sentence w : Text} {place : Nat}
    (hm : (w, place) ∈ operandWords (tokenize sentence)) :
    ∃ v, (Text.words sentence)[place]? = some v ∧ Text.lowercase v = w := by
  obtain ⟨hd, hwords⟩ := tokenize_decomposition sentence
  have hplaced := hd.operandWords_sublist.subset hm
  rw [hwords, List.mem_zipIdx_iff_getElem?, List.getElem?_map, Option.map_eq_some_iff] at hplaced
  exact hplaced

/-- A warning stands at the word of the sentence that it names a part of. -/
theorem warning_at_word {sentence : Text} {warning : Warning}
    (hm : warning ∈ warnings (tokenize sentence)) :
    ∃ w, (Text.words sentence)[warning.position]? = some w ∧
      warning.word ∈ Numeral.phraseWords w ∧
      warning.suggestion = Correction.suggestion warning.word := by
  obtain ⟨⟨w, place⟩, hplaced, hm⟩ := List.mem_flatMap.mp hm
  obtain ⟨unknown, hunknown, rfl⟩ := List.mem_map.mp hm
  obtain ⟨v, hv, rfl⟩ := word_at_place hplaced
  rw [Numeral.unknownWords_lowercase] at hunknown
  exact ⟨v, hv, (List.mem_filter.mp hunknown).1, rfl⟩

/-- At the place of a word of an operand stand the warnings of this word alone. -/
theorem warnings_at_place {sentence text w : Text} {position k : Nat}
    (hm : ⟨.operand text, position⟩ ∈ tokenize sentence) (hk : k < (Text.words text).length)
    (hw : (Text.words sentence)[position + k]? = some w) :
    ((warnings (tokenize sentence)).filter (·.position = position + k)).map Warning.word =
      Numeral.unknownWords w := by
  have hplaced := mem_operandWords hm (List.getElem?_eq_getElem hk)
  obtain ⟨v, hv, hlower⟩ := word_at_place hplaced
  rw [hw] at hv
  cases hv
  have hincrease := (tokenize_decomposition sentence).1.places_increase
  rw [warnings, Warning.filter_ofWord hincrease hplaced, Warning.word_ofWord, ← hlower,
    Numeral.unknownWords_lowercase]

end Token

namespace Notes

/-- The warnings of a token are noted whether it can be read or not. -/
theorem readOperand_warnings (count : Nat → Nat) (notes : Notes) (token : Token) :
    (notes.readOperand count token).notes.warnings =
      notes.warnings ++ (Token.warnings [token]).map (Warning.counted count) := by
  obtain ⟨part, position⟩ := token
  cases part with
  | operator op phrase => exact (List.append_nil _).symm
  | operand text =>
    rw [Token.warnings_operand, readOperand]
    simp only
    split
    · split <;> rfl
    · rfl

/-- An operand and steps that are read add the warnings of both. -/
theorem readOperandAnd_warnings {α : Type} {readRest : Notes → Noted (List Step)}
    {rest : List Token}
    (hrest : ∀ (after : Notes) (steps : List Step), (readRest after).result = .ok steps →
      (readRest after).notes.warnings = after.warnings ++ Token.warnings rest)
    {notes : Notes} {operand : Token} {make : Value → List Step → α} {a : α}
    (h : (notes.readOperandAnd id operand readRest make).result = .ok a) :
    (notes.readOperandAnd id operand readRest make).notes.warnings =
      notes.warnings ++ Token.warnings (operand :: rest) := by
  rw [readOperandAnd_result] at h
  cases hv : (notes.readOperand id operand).result with
  | error fault =>
    rw [hv] at h
    cases h
  | ok v =>
    cases hsteps : (readRest (notes.readOperand id operand).notes).result with
    | error fault =>
      rw [hv, Except.bind, hsteps] at h
      cases h
    | ok steps =>
      rw [readOperandAnd_notes, hv]
      simp only
      rw [hrest _ steps hsteps, readOperand_warnings, Warning.map_counted_id,
        Token.warnings_cons operand rest, List.append_assoc]

theorem readSteps_warnings (notes : Notes) {tokens : List Token} {steps : List Step}
    (h : (notes.readSteps id tokens).result = .ok steps) :
    (notes.readSteps id tokens).notes.warnings = notes.warnings ++ Token.warnings tokens := by
  match tokens with
  | [] => exact (List.append_nil _).symm
  | ⟨.operand text, p⟩ :: rest => cases h
  | [⟨.operator op phrase, p⟩] => cases h
  | ⟨.operator op phrase, p⟩ :: operand :: rest =>
    have hoperator : Token.warnings [⟨.operator op phrase, p⟩] = [] := rfl
    rw [readSteps] at h ⊢
    rw [Token.warnings_cons, hoperator, List.nil_append]
    exact readOperandAnd_warnings (fun after _ hsteps => readSteps_warnings after hsteps) h

theorem analyze_warnings (notes : Notes) {tokens : List Token} {e : Expression}
    (h : (notes.analyze id tokens).result = .ok e) :
    (notes.analyze id tokens).notes.warnings = notes.warnings ++ Token.warnings tokens := by
  cases tokens with
  | nil => cases h
  | cons first rest =>
    rw [analyze] at h ⊢
    exact readOperandAnd_warnings (fun after _ hsteps => after.readSteps_warnings hsteps) h

section

variable {count : Nat → Nat}

/-- Where the count leaves the places of the warnings as they are, it does not matter. -/
theorem readOperand_of_exact {token : Token}
    (h : ∀ warning ∈ Token.warnings [token], count warning.position = warning.position)
    (notes : Notes) : notes.readOperand count token = notes.readOperand id token := by
  obtain ⟨part, position⟩ := token
  cases part with
  | operator op phrase => rfl
  | operand text =>
    rw [Token.warnings_operand] at h
    have hown : (Warning.ofOperand text position).map (Warning.counted count) =
        (Warning.ofOperand text position).map (Warning.counted id) := by
      apply List.map_congr_left
      intro warning hm
      rw [Warning.counted, h warning hm]
      rfl
    simp only [readOperand, hown]

theorem readOperandAnd_of_exact {α : Type} {readRest readRest' : Notes → Noted (List Step)}
    {operand : Token} {rest : List Token}
    (h : ∀ warning ∈ Token.warnings (operand :: rest), count warning.position = warning.position)
    (hrest : (∀ warning ∈ Token.warnings rest, count warning.position = warning.position) →
      ∀ notes, readRest notes = readRest' notes)
    (notes : Notes) (make : Value → List Step → α) :
    notes.readOperandAnd count operand readRest make =
      notes.readOperandAnd id operand readRest' make := by
  rw [Token.warnings_cons, List.forall_mem_append] at h
  have hsame := funext (hrest h.2)
  rw [readOperandAnd, readOperandAnd, readOperand_of_exact h.1, hsame]

theorem readSteps_of_exact {tokens : List Token}
    (h : ∀ warning ∈ Token.warnings tokens, count warning.position = warning.position)
    (notes : Notes) : notes.readSteps count tokens = notes.readSteps id tokens := by
  match tokens with
  | [] => rfl
  | ⟨.operand text, p⟩ :: rest => rfl
  | [⟨.operator op phrase, p⟩] => rfl
  | ⟨.operator op phrase, p⟩ :: operand :: rest =>
    have hoperator : Token.warnings [⟨.operator op phrase, p⟩] = [] := rfl
    rw [Token.warnings_cons, hoperator, List.nil_append] at h
    rw [readSteps, readSteps]
    exact readOperandAnd_of_exact h (fun hrest notes => readSteps_of_exact hrest notes) notes _

theorem analyze_of_exact {tokens : List Token}
    (h : ∀ warning ∈ Token.warnings tokens, count warning.position = warning.position)
    (notes : Notes) : notes.analyze count tokens = notes.analyze id tokens := by
  cases tokens with
  | nil => rfl
  | cons first rest =>
    rw [analyze, analyze]
    exact readOperandAnd_of_exact h (fun hrest notes => readSteps_of_exact hrest notes) notes _

end

/-- In a sentence of no more words than 64 bits count, no count starts again. -/
theorem analyze_wordCount {sentence : Text}
    (h : (Text.words sentence).length ≤ 0x10000000000000000) (notes : Notes) :
    notes.analyze wordCount (tokenize sentence) = notes.analyze id (tokenize sentence) := by
  apply analyze_of_exact
  intro warning hm
  obtain ⟨w, hw, _⟩ := Token.warning_at_word hm
  have hlt := (List.getElem?_eq_some_iff.mp hw).1
  exact Nat.mod_eq_of_lt (Nat.lt_of_lt_of_le hlt h)

end Notes

/-- An answer is that of the expression that was read, with the warnings of all its operands. -/
theorem evaluate_ok_cases {sentence : Text} {answer : Answer}
    (h : evaluate sentence = .ok answer) :
    ∃ e, (Notes.analyze id {} (tokenize sentence)).result = .ok e ∧ e.reduce = .ok answer.value ∧
      answer.warnings = Token.warnings (tokenize sentence) := by
  rw [evaluate_eq] at h
  cases he : (Notes.analyze id {} (tokenize sentence)).result with
  | error fault =>
    rw [he] at h
    cases h
  | ok e =>
    rw [he, Except.bind] at h
    cases hv : e.reduce with
    | error fault =>
      rw [hv] at h
      cases h
    | ok v =>
      rw [hv] at h
      cases h
      exact ⟨e, rfl, hv, Notes.analyze_warnings {} he⟩

/-- The warnings of an answer are the words that the operands pass over, in order, each as often
as it occurs. They stand at the places of the words of the sentence that they are parts of, and
looking for a number word by word is looking for one in the phrase. -/
theorem warnings_are_the_words_passed_over {sentence : Text} {answer : Answer}
    (h : evaluate sentence = .ok answer) :
    answer.warnings.map Warning.word =
        (Token.operands (tokenize sentence)).flatMap Numeral.unknownWords ∧
      (answer.warnings.Pairwise fun a b => a.position ≤ b.position) ∧
      (∀ warning ∈ answer.warnings, ∃ w, (Text.words sentence)[warning.position]? = some w ∧
        warning.word ∈ Numeral.phraseWords w ∧
        warning.suggestion = Correction.suggestion warning.word) ∧
      (∀ text position k w, ⟨.operand text, position⟩ ∈ tokenize sentence →
        k < (Text.words text).length → (Text.words sentence)[position + k]? = some w →
        (answer.warnings.filter (·.position = position + k)).map Warning.word =
          Numeral.unknownWords w) ∧
      ∀ text, namesNumber text = (Numeral.phraseWords text).any isNumberWord := by
  obtain ⟨_, _, _, hwarnings⟩ := evaluate_ok_cases h
  rw [hwarnings]
  refine ⟨Token.word_warnings _, (Token.tokenize_decomposition sentence).1.warnings_sorted,
    fun warning hm => Token.warning_at_word hm, ?_, namesNumber_eq⟩
  intro text position k w hm hk hw
  exact Token.warnings_at_place hm hk hw

/-- Both parts of a hyphenated word are warned of at its place. -/
theorem warnings_of_hyphenated_word :
    let sentence := "Fourty TWO plus x-twenty-Y and".toList
    let answer : Answer := ⟨⟨22, by decide, by decide⟩, [
      ⟨"fourty".toList, 0, some "forty".toList⟩, ⟨['x'], 3, none⟩, ⟨['y'], 3, none⟩]⟩
    evaluate sentence = .ok answer ∧
      (answer.warnings.filter (·.position = 3)).map Warning.word =
        Numeral.unknownWords "x-twenty-Y".toList := by
  intro sentence answer
  have htokens : tokenize sentence = [⟨.operand "fourty two".toList, 0⟩,
      ⟨.operator .add "plus".toList, 2⟩, ⟨.operand "x-twenty-y and".toList, 3⟩] := by
    decide +kernel
  have h : evaluate sentence = .ok answer := by
    rw [evaluate_eq, htokens]
    rfl
  obtain ⟨_, _, _, hplace, _⟩ := warnings_are_the_words_passed_over h
  exact ⟨h, hplace "x-twenty-y and".toList 3 0 _ (by rw [htokens]; simp) (by decide) (by decide)⟩

end WordArithmetic
