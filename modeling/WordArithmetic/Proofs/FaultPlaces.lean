import WordArithmetic.Proofs.CaretColumns
import WordArithmetic.Proofs.Decomposition

namespace WordArithmetic

def Operator.BeginsAt (words : List Text) (place : Nat) : Prop :=
  ∃ entry ∈ phrases, Text.words entry.1 <+: words.drop place

/-- What a cause says of the sentence at its place. Two operands never meet, so a missing operand
is always missed by an operator. -/
def Fault.Cause.FoundAt (sentence : Text) (place : Nat) (cause : Fault.Cause) : Prop :=
  let words := (Text.words sentence).map Text.lowercase
  match cause with
  | .nothing => False
  | .missingOperand phrase =>
    (∃ op, (phrase, op) ∈ Operator.phrases ∧ ⟨.operator op phrase, place⟩ ∈ tokenize sentence) ∧
      Text.words phrase <+: words.drop place
  | .trailingOperator phrase =>
    (∃ op, (phrase, op) ∈ Operator.phrases ∧ ⟨.operator op phrase, place⟩ ∈ tokenize sentence) ∧
      Text.words phrase = words.drop place
  | .notANumber text =>
    (∃ stop, place < stop ∧ text = Text.unwords ((words.drop place).take (stop - place)) ∧
      (stop = words.length ∨ Operator.BeginsAt words stop) ∧
      ∀ k, place ≤ k → k < stop → ¬ Operator.BeginsAt words k) ∧
      ∀ w ∈ Numeral.phraseWords text, isNumberWord w = false
  | .divisionByZero | .outOfRange =>
    ∃ text, ⟨.operand text, place⟩ ∈ tokenize sentence ∧ Text.words text <+: words.drop place

namespace Operator

theorem FreeOfPhrases.drop {ws : List Text} (h : FreeOfPhrases ws) (k : Nat) :
    FreeOfPhrases (ws.drop k) := by
  intro entry hm hin
  exact h entry hm (hin.trans (List.drop_suffix k ws).isInfix)

theorem beginsAt_drop {words : List Text} {place k : Nat} :
    BeginsAt (words.drop place) k ↔ BeginsAt words (place + k) := by
  simp only [BeginsAt, List.drop_drop]

/-- No phrase begins within words that hold none, up to where the next one may begin. -/
theorem FreeOfPhrases.not_beginsAt {ws rest : List Text} (hfree : FreeOfPhrases ws)
    (hrest : StartsWithPhrase rest) {k : Nat} (hk : k < ws.length) :
    ¬ BeginsAt (ws ++ rest) k := by
  rintro ⟨entry, hentry, hp⟩
  have hne : ws.drop k ≠ [] := by
    rw [ne_eq, List.drop_eq_nil_iff]
    omega
  have hnone := leading?_operand hne (hfree.drop k) hrest
  rw [List.drop_append_of_le_length (Nat.le_of_lt hk)] at hp
  exact leading?_eq_none_iff.mp hnone entry hentry hp

end Operator

namespace Token

theorem exists_split {α : Type} {l : List α} {i : Nat} {a : α} (h : l[i]? = some a) :
    ∃ before after, l = before ++ a :: after ∧ before.length = i := by
  obtain ⟨hi, rfl⟩ := List.getElem?_eq_some_iff.mp h
  refine ⟨l.take i, l.drop (i + 1), ?_, List.length_take_of_le (Nat.le_of_lt hi)⟩
  rw [List.getElem_cons_drop, List.take_append_drop]

/-- The words from the place of a token on are its own and those of the tokens behind it. -/
theorem drop_position {sentence : Text} {before after : List Token} {token : Token}
    (h : tokenize sentence = before ++ token :: after) :
    ((Text.words sentence).map Text.lowercase).drop token.position =
      token.words ++ wordsOf after := by
  obtain ⟨hd, hwords⟩ := tokenize_decomposition sentence
  rw [h] at hd hwords
  rw [← hwords, hd.drop_position]

theorem words_prefix {sentence : Text} {token : Token} (hm : token ∈ tokenize sentence) :
    token.words <+: ((Text.words sentence).map Text.lowercase).drop token.position := by
  obtain ⟨before, after, hsplit⟩ := List.append_of_mem hm
  rw [drop_position hsplit]
  exact List.prefix_append _ _

theorem position_lt {sentence : Text} {token : Token} (hm : token ∈ tokenize sentence) :
    token.position < (Text.words sentence).length := by
  have hne := (tokenize_decomposition sentence).1.words_ne_nil hm
  have hprefix := words_prefix hm
  apply Nat.lt_of_not_le
  intro hle
  rw [List.drop_eq_nil_of_le (by simpa using hle), List.prefix_nil] at hprefix
  exact hne hprefix

/-- An operand reaches from its place to the next operator phrase or to the end. -/
theorem operand_extent {sentence text : Text} {place : Nat}
    (hm : ⟨.operand text, place⟩ ∈ tokenize sentence) :
    let words := (Text.words sentence).map Text.lowercase
    ∃ stop, place < stop ∧ text = Text.unwords ((words.drop place).take (stop - place)) ∧
      (stop = words.length ∨ Operator.BeginsAt words stop) ∧
      ∀ k, place ≤ k → k < stop → ¬ Operator.BeginsAt words k := by
  intro words
  obtain ⟨before, after, hsplit⟩ := List.append_of_mem hm
  have hdrop : words.drop place = Text.words text ++ wordsOf after := drop_position hsplit
  have hd := (tokenize_decomposition sentence).1
  have hlen : 0 < (Text.words text).length := List.length_pos_iff.mpr (hd.words_ne_nil hm)
  have hfree := hd.free text place hm
  obtain ⟨ws, _, hws, htext⟩ := hd.operands text place hm
  rw [hsplit] at hd
  have hnext := (hd.suffix before).startsWithPhrase
  refine ⟨place + (Text.words text).length, Nat.lt_add_of_pos_right hlen, ?_, ?_, ?_⟩
  · rw [hdrop, Nat.add_sub_cancel_left, List.take_left, htext,
      Text.words_unwords_of_isWord hws]
  · rcases hnext with hend | hbegins
    · left
      have hlength := congrArg List.length hdrop
      rw [hend, List.append_nil, List.length_drop] at hlength
      omega
    · right
      rw [← Operator.beginsAt_drop, hdrop, Operator.BeginsAt, List.drop_left]
      exact hbegins
  · intro k hk hlt
    obtain ⟨i, rfl⟩ := Nat.exists_eq_add_of_le hk
    rw [← Operator.beginsAt_drop, hdrop]
    exact hfree.not_beginsAt hnext (Nat.lt_of_add_lt_add_left hlt)

/-- Where nothing is wrong before it, a token at an odd index is an operator. -/
theorem odd_isOperator {sentence : Text} {i : Nat} {token : Token}
    (hi : (tokenize sentence)[i]? = some token) (hodd : ¬ i % 2 = 0)
    (hbefore : ∀ j < i, faultAt? (tokenize sentence) j = none) :
    ∃ op phrase, token.part = .operator op phrase := by
  obtain ⟨part, position⟩ := token
  cases part with
  | operator op phrase => exact ⟨op, phrase, rfl⟩
  | operand text =>
    have hlt := (List.getElem?_eq_some_iff.mp hi).1
    obtain ⟨j, rfl⟩ : ∃ j, i = j + 1 := ⟨i - 1, by omega⟩
    obtain ⟨first, hfirst⟩ : ∃ first, (tokenize sentence)[j]? = some first :=
      ⟨_, List.getElem?_eq_getElem (by omega)⟩
    -- Nothing is wrong with the token before it, so that is an operand, and two never meet.
    have hplace := (faultAt?_place hfirst).mp (hbefore j (Nat.lt_succ_self j))
    rw [if_pos (by omega)] at hplace
    obtain ⟨other, hpart, _⟩ := Part.operandFault?_eq_none_iff.mp hplace
    obtain ⟨before, after, hsplit, hlength⟩ := exists_split hfirst
    rw [hsplit, List.getElem?_append_right (by omega), hlength] at hi
    cases after with
    | nil => simp at hi
    | cons second after =>
      obtain ⟨part, place⟩ := first
      have hsecond : second = ⟨.operand text, position⟩ := by simpa using hi
      subst hpart hsecond
      exact absurd hsplit
        ((tokenize_decomposition sentence).1.apart before other place text position after)

theorem mem_exactSteps {tokens : List Token} {step : ExactStep} (h : step ∈ exactSteps tokens) :
    ∃ text, ⟨.operand text, step.position⟩ ∈ tokens := by
  fun_induction exactSteps tokens with
  | case1 first op phrase p text position rest ih =>
    rcases List.mem_cons.mp h with rfl | h
    · exact ⟨text, by simp⟩
    · obtain ⟨other, hm⟩ := ih h
      exact ⟨other, List.mem_cons_of_mem _ (List.mem_cons_of_mem _ hm)⟩
  | case2 => simp at h

end Token

namespace Token

/-- A token that is taken for an operand and is none, or names no number that fits. -/
theorem foundAt_of_operandFault? {sentence : Text} {token : Token} {cause : Fault.Cause}
    (hm : token ∈ tokenize sentence) (h : token.part.operandFault? = some cause) :
    cause.FoundAt sentence token.position := by
  have hprefix := words_prefix hm
  obtain ⟨part, place⟩ := token
  cases part with
  | operator op phrase =>
    have hop := (tokenize_decomposition sentence).1.operators op phrase place hm
    cases h
    exact ⟨⟨op, Operator.ofPhrase?_eq_some_iff.mp hop, hm⟩, hprefix⟩
  | operand text =>
    simp only [Part.operandFault?] at h
    split at h
    · rename_i hnone
      cases h
      exact ⟨operand_extent hm, by simpa using hnone⟩
    · split at h
      · contradiction
      · cases h
        exact ⟨text, hm, hprefix⟩

/-- An operator with nothing behind it ends the sentence. -/
theorem foundAt_of_operatorFault? {sentence : Text} {i : Nat} {token : Token}
    {cause : Fault.Cause} (hi : (tokenize sentence)[i]? = some token)
    (hoperator : ∃ op phrase, token.part = .operator op phrase)
    (h : token.part.operatorFault? (i + 1 = (tokenize sentence).length) = some cause) :
    cause.FoundAt sentence token.position := by
  obtain ⟨before, after, hsplit, hlength⟩ := exists_split hi
  have hdrop := drop_position hsplit
  have hm := List.mem_iff_getElem?.mpr ⟨i, hi⟩
  obtain ⟨part, place⟩ := token
  obtain ⟨op, phrase, rfl⟩ := hoperator
  have hop := (tokenize_decomposition sentence).1.operators op phrase place hm
  simp only [Part.operatorFault?, Option.ite_none_right_eq_some, decide_eq_true_eq,
    Option.some.injEq] at h
  obtain ⟨hlast, rfl⟩ := h
  rw [hsplit, List.length_append, List.length_cons, hlength] at hlast
  have hafter : after = [] := List.eq_nil_of_length_eq_zero (by omega)
  rw [hafter, wordsOf, List.flatMap_nil, List.append_nil] at hdrop
  exact ⟨⟨op, Operator.ofPhrase?_eq_some_iff.mp hop, hm⟩, hdrop.symm⟩

theorem foundAt_of_failsWith {sentence : Text} {cause : Fault.Cause} {position : Option Nat}
    (h : FailsWith (tokenize sentence) cause position) :
    cause = .nothing ∧ position = none ∧ Text.words sentence = [] ∨
      ∃ place, position = some place ∧ place < (Text.words sentence).length ∧
        cause.FoundAt sentence place := by
  cases h with
  | nothing hnil =>
    have hwords := (tokenize_decomposition sentence).2
    rw [hnil, eq_comm, wordsOf, List.flatMap_nil, List.map_eq_nil_iff] at hwords
    exact .inl ⟨rfl, rfl, hwords⟩
  | @token i token _ hi hfault hbefore =>
    have hm := List.mem_iff_getElem?.mpr ⟨i, hi⟩
    refine .inr ⟨token.position, rfl, position_lt hm, ?_⟩
    rw [faultAt?, hi, Option.bind_some] at hfault
    split at hfault
    · exact foundAt_of_operandFault? hm hfault
    · rename_i hodd
      exact foundAt_of_operatorFault? hi (odd_isOperator hi hodd hbefore) hfault
  | @step k step _ _ _ hk hfault _ =>
    obtain ⟨text, hm⟩ := mem_exactSteps (List.mem_iff_getElem?.mpr ⟨k, hk⟩)
    refine .inr ⟨step.position, rfl, position_lt hm, ?_⟩
    rw [ExactStep.faultAt?, hk, Option.bind_some] at hfault
    rcases ExactStep.fault?_cases hfault with rfl | rfl
    · exact ⟨text, hm, words_prefix hm⟩
    · exact ⟨text, hm, words_prefix hm⟩

end Token

/-- A fault has a place in the sentence unless there is no word in it. The report shows the
sentence and carets below it, and at the place stands what the cause says. -/
theorem faults_point_into_the_sentence {sentence : Text} {fault : Fault}
    (h : evaluate sentence = .error fault) :
    (fault.position = none ↔ fault.cause = .nothing) ∧
      (fault.cause = .nothing ↔ Text.words sentence = []) ∧
      ∀ place, fault.position = some place →
        place < (Text.words sentence).length ∧ fault.cause.FoundAt sentence place ∧
        ∃ margin column width, 0 < width ∧
          [margin ++ Text.unwords (Text.words sentence), margin ++ List.replicate column ' ' ++
            Fault.styled "1;31" (List.replicate width '^')] <:+: fault.reportLines sentence := by
  rcases Token.foundAt_of_failsWith (failsWith_of_evaluate h) with
    ⟨hcause, hposition, hwords⟩ | ⟨place, hposition, hlt, hfound⟩
  · rw [hcause, hposition, hwords]
    simp
  · have hcause : fault.cause ≠ .nothing := by
      intro he
      rw [he] at hfound
      exact hfound
    have hwords : Text.words sentence ≠ [] := List.ne_nil_of_length_pos (Nat.zero_lt_of_lt hlt)
    rw [hposition]
    refine ⟨by simp [hcause], by simp [hcause, hwords], ?_⟩
    rintro _ ⟨⟩
    obtain ⟨margin, hpointer⟩ := Fault.pointer_eq (List.getElem?_eq_getElem hlt)
    have hwidth : 0 < max (Text.byteLength (Text.words sentence)[place]) 1 :=
      Nat.lt_of_lt_of_le Nat.one_pos (Nat.le_max_right _ 1)
    refine ⟨hlt, hfound, margin,
      Text.byteLength (Text.beforeWord (Text.words sentence) place), _, hwidth, ?_⟩
    rw [Fault.reportLines, hposition, Option.map_some, Option.getD_some, hpointer]
    exact List.infix_append _ _ _

/-- A misspelled operand is found behind the operator, up to the next one. -/
theorem misspelled_operand_is_found :
    let sentence := "Two  plus Tree multiplied multiplied BY ten".toList
    let fault : Fault := ⟨.notANumber "tree multiplied".toList, some 2, none⟩
    evaluate sentence = .error fault ∧ fault.cause.FoundAt sentence 2 := by
  intro sentence fault
  have htokens : tokenize sentence = [⟨.operand "two".toList, 0⟩,
      ⟨.operator .add "plus".toList, 1⟩, ⟨.operand "tree multiplied".toList, 2⟩,
      ⟨.operator .multiply "multiplied by".toList, 4⟩, ⟨.operand "ten".toList, 6⟩] := by
    decide +kernel
  have h : evaluate sentence = .error fault := by
    rw [evaluate_eq, htokens]
    rfl
  exact ⟨h, ((faults_point_into_the_sentence h).2.2 2 rfl).2.1⟩

end WordArithmetic
