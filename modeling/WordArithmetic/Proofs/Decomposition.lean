import WordArithmetic.Proofs.Lowercasing
import WordArithmetic.Proofs.OperatorPhrases

namespace WordArithmetic

def Part.text : Part → Text
  | .operand text => text
  | .operator _ phrase => phrase

namespace Token

def words (token : Token) : List Text :=
  Text.words token.part.text

def wordsOf (tokens : List Token) : List Text :=
  tokens.flatMap words

theorem wordsOf_cons (token : Token) (tokens : List Token) :
    wordsOf (token :: tokens) = token.words ++ wordsOf tokens :=
  List.flatMap_cons

theorem wordsOf_append (before after : List Token) :
    wordsOf (before ++ after) = wordsOf before ++ wordsOf after :=
  List.flatMap_append

def sentence (tokens : List Token) : Text :=
  Text.unwords (tokens.map (·.part.text))

/-- What it is for tokens to divide the words from a place of a sentence on: operands are words
with single spaces, operators come from the table, positions count the words before, and operands
neither touch nor hold an operator phrase. -/
structure Decomposition (start : Nat) (tokens : List Token) : Prop where
  operands : ∀ text position, ⟨.operand text, position⟩ ∈ tokens →
    ∃ ws, ws ≠ [] ∧ (∀ w ∈ ws, Text.IsWord w) ∧ text = Text.unwords ws
  operators : ∀ op phrase position, ⟨.operator op phrase, position⟩ ∈ tokens →
    Operator.ofPhrase? phrase = some op
  positions : ∀ before token after, tokens = before ++ token :: after →
    token.position = start + (wordsOf before).length
  apart : ∀ before a p b q after, tokens ≠ before ++ ⟨.operand a, p⟩ :: ⟨.operand b, q⟩ :: after
  free : ∀ text position, ⟨.operand text, position⟩ ∈ tokens →
    Operator.FreeOfPhrases (Text.words text)

theorem Decomposition.nil (start : Nat) : Decomposition start [] where
  operands := by simp
  operators := by simp
  positions := by simp
  apart := by simp
  free := by simp

theorem Decomposition.tail {start : Nat} {token : Token} {tokens : List Token}
    (h : Decomposition start (token :: tokens)) :
    Decomposition (start + token.words.length) tokens where
  operands text position hm := h.operands text position (List.mem_cons_of_mem token hm)
  operators op phrase position hm := h.operators op phrase position (List.mem_cons_of_mem token hm)
  positions before other after he := by
    rw [h.positions (token :: before) other after (by rw [he, List.cons_append]), wordsOf,
      List.flatMap_cons, List.length_append, ← Nat.add_assoc]
    rfl
  apart before a p b q after he := h.apart (token :: before) a p b q after (by
    rw [he, List.cons_append])
  free text position hm := h.free text position (List.mem_cons_of_mem token hm)

theorem Decomposition.position {start : Nat} {token : Token} {tokens : List Token}
    (h : Decomposition start (token :: tokens)) : token.position = start :=
  h.positions [] token tokens rfl

/-- A token in front of a decomposition, whose positions go on behind the token's words. -/
theorem Decomposition.cons {start : Nat} {token : Token} {tokens : List Token}
    (h : Decomposition (start + token.words.length) tokens) (hp : token.position = start)
    (hoperator : ∀ op phrase, token.part = .operator op phrase →
      Operator.ofPhrase? phrase = some op)
    (hoperand : ∀ text, token.part = .operand text →
      (∃ ws, ws ≠ [] ∧ (∀ w ∈ ws, Text.IsWord w) ∧ text = Text.unwords ws) ∧
      Operator.FreeOfPhrases (Text.words text) ∧
      ∀ other q after, tokens ≠ ⟨.operand other, q⟩ :: after) :
    Decomposition start (token :: tokens) where
  operands text position hm := by
    rcases List.mem_cons.mp hm with rfl | hm
    · exact (hoperand text rfl).1
    · exact h.operands text position hm
  operators op phrase position hm := by
    rcases List.mem_cons.mp hm with rfl | hm
    · exact hoperator op phrase rfl
    · exact h.operators op phrase position hm
  positions before other after he := by
    cases before with
    | nil =>
      rw [← (List.cons.inj he).1]
      simpa [wordsOf] using hp
    | cons first before =>
      obtain ⟨rfl, hrest⟩ := List.cons.inj he
      rw [h.positions before other after hrest, wordsOf, wordsOf, List.flatMap_cons,
        List.length_append, ← Nat.add_assoc]
  apart before a p b q after he := by
    cases before with
    | nil =>
      obtain ⟨rfl, hrest⟩ := List.cons.inj he
      exact (hoperand a rfl).2.2 b q after hrest
    | cons first before => exact h.apart before a p b q after (List.cons.inj he).2
  free text position hm := by
    rcases List.mem_cons.mp hm with rfl | hm
    · exact (hoperand text rfl).2.1
    · exact h.free text position hm

theorem ofWords_operator {phrase : Text} {op : Operator} (h : (phrase, op) ∈ Operator.phrases)
    (position : Nat) (rest : List Text) :
    ofWords position (Text.words phrase ++ rest) =
      ⟨.operator op phrase, position⟩ ::
        ofWords (position + (Text.words phrase).length) rest := by
  have hl := Operator.leading?_append h rest
  cases hw : Text.words phrase with
  | nil => exact absurd hw (Operator.phrase_words_ne_nil h)
  | cons w ws =>
    rw [hw, List.cons_append] at hl
    rw [List.cons_append, ofWords]
    simp only [hl, hw, List.length_cons, Nat.add_sub_cancel, List.drop_left]
    rw [Nat.add_assoc, Nat.add_comm 1]

/-- Where an operator phrase begins or the words end, no operand stands first. -/
theorem ofWords_ne_operand {rest : List Text} (hrest : Operator.StartsWithPhrase rest)
    (position : Nat) (text : Text) (p : Nat) (after : List Token) :
    ofWords position rest ≠ ⟨.operand text, p⟩ :: after := by
  rcases hrest with rfl | ⟨⟨phrase, op⟩, hm, hp⟩
  · simp [ofWords]
  · obtain ⟨more, rfl⟩ := hp
    rw [ofWords_operator hm]
    simp

theorem attach_operator_front {tokens : List Token} (word : Text) (position : Nat)
    (h : ∀ text p after, tokens ≠ ⟨.operand text, p⟩ :: after) :
    attach word position tokens = ⟨.operand word, position⟩ :: tokens := by
  unfold attach
  split
  · exact absurd rfl (h _ _ _)
  · rfl

/-- Words without an operator phrase, up to an operator or the end, are one operand. -/
theorem ofWords_operand {ws rest : List Text} (hne : ws ≠ [])
    (hfree : Operator.FreeOfPhrases ws) (hrest : Operator.StartsWithPhrase rest)
    (position : Nat) :
    ofWords position (ws ++ rest) =
      ⟨.operand (Text.unwords ws), position⟩ :: ofWords (position + ws.length) rest := by
  induction ws generalizing position with
  | nil => contradiction
  | cons w ws ih =>
    have hl := Operator.leading?_operand hne hfree hrest
    rw [List.cons_append] at hl
    rw [List.cons_append, ofWords]
    simp only [hl]
    by_cases hws : ws = []
    · subst ws
      rw [List.nil_append, attach_operator_front w position (ofWords_ne_operand hrest _),
        Text.unwords_singleton]
      rfl
    · rw [ih hws (Operator.freeOfPhrases_cons_iff.mp hfree).2, attach, Text.unwords_cons w hws,
        Text.unwords_cons w (by simp), Text.unwords_singleton, List.length_cons, Nat.add_assoc,
        Nat.add_comm 1]

theorem ofWords_decomposition (start : Nat) {ws : List Text} (hw : ∀ w ∈ ws, Text.IsWord w) :
    Decomposition start (ofWords start ws) ∧ wordsOf (ofWords start ws) = ws := by
  induction ws using Operator.phrase_induction generalizing start with
  | nil =>
    rw [ofWords]
    exact ⟨.nil start, rfl⟩
  | operator phrase op rest hm ih =>
    obtain ⟨hd, hwords⟩ := ih (start + (Text.words phrase).length)
      (fun w hr => hw w (List.mem_append_right _ hr))
    rw [ofWords_operator hm]
    refine ⟨hd.cons rfl ?_ (by simp), by rw [wordsOf, List.flatMap_cons, ← wordsOf, hwords]; rfl⟩
    intro op' phrase' he
    cases he
    exact Operator.ofPhrase?_eq_some_iff.mpr hm
  | operand first rest hne hfree hrest ih =>
    have hfirst : ∀ w ∈ first, Text.IsWord w := by
      intro w hm
      exact hw w (List.mem_append_left _ hm)
    have hread := Text.words_unwords_of_isWord hfirst
    obtain ⟨hd, hwords⟩ := ih (start + first.length)
      (fun w hr => hw w (List.mem_append_right _ hr))
    rw [ofWords_operand hne hfree hrest]
    refine ⟨Decomposition.cons ?_ rfl (by simp) ?_, ?_⟩
    · simpa only [words, Part.text, hread] using hd
    · intro text he
      cases he
      exact ⟨⟨first, hne, hfirst, rfl⟩, by rwa [hread], fun other q after =>
        ofWords_ne_operand hrest _ other q after⟩
    · rw [wordsOf, List.flatMap_cons, ← wordsOf, hwords]
      simp only [words, Part.text, hread]

/-- The words behind an operand begin with an operator, if there are any. -/
theorem Decomposition.startsWithPhrase {start p : Nat} {text : Text} {tokens : List Token}
    (h : Decomposition start (⟨.operand text, p⟩ :: tokens)) :
    Operator.StartsWithPhrase (wordsOf tokens) := by
  cases tokens with
  | nil => exact .inl rfl
  | cons token tokens =>
    obtain ⟨part, q⟩ := token
    cases part with
    | operand other => exact absurd rfl (h.apart [] text p other q tokens)
    | operator op phrase =>
      have hm := Operator.ofPhrase?_eq_some_iff.mp (h.operators op phrase q (by simp))
      refine .inr ⟨_, hm, ?_⟩
      rw [wordsOf, List.flatMap_cons]
      exact List.prefix_append _ _

/-- A decomposition is what scanning its words gives. -/
theorem ofWords_wordsOf {start : Nat} {tokens : List Token} (h : Decomposition start tokens) :
    ofWords start (wordsOf tokens) = tokens := by
  induction tokens generalizing start with
  | nil => simp [wordsOf, ofWords]
  | cons token tokens ih =>
    have hposition := h.position
    have hscan := ih h.tail
    obtain ⟨part, p⟩ := token
    subst hposition
    cases part with
    | operator op phrase =>
      have hm := Operator.ofPhrase?_eq_some_iff.mp (h.operators op phrase p (by simp))
      rw [wordsOf, List.flatMap_cons, ← wordsOf, words, Part.text, ofWords_operator hm]
      exact congrArg _ hscan
    | operand text =>
      obtain ⟨ws, hne, hw, rfl⟩ := h.operands text p (by simp)
      have hread := Text.words_unwords_of_isWord hw
      have hfree := h.free (Text.unwords ws) p (by simp)
      rw [hread] at hfree
      simp only [words, Part.text, hread] at hscan
      rw [wordsOf, List.flatMap_cons, ← wordsOf, words, Part.text, hread,
        ofWords_operand hne hfree h.startsWithPhrase]
      exact congrArg _ hscan

/-- What stands behind some tokens is a decomposition of the words behind theirs. -/
theorem Decomposition.suffix {start : Nat} (before : List Token) {tokens : List Token}
    (h : Decomposition start (before ++ tokens)) :
    Decomposition (start + (wordsOf before).length) tokens := by
  induction before generalizing start with
  | nil => exact h
  | cons token before ih =>
    rw [wordsOf_cons, List.length_append, ← Nat.add_assoc]
    exact ih h.tail

/-- The words from the place of a token on are its own and those of the tokens behind it. -/
theorem Decomposition.drop_position {before after : List Token} {token : Token}
    (h : Decomposition 0 (before ++ token :: after)) :
    (wordsOf (before ++ token :: after)).drop token.position = token.words ++ wordsOf after := by
  rw [h.positions before token after rfl, Nat.zero_add, wordsOf_append, wordsOf_cons,
    List.drop_left]

theorem Decomposition.words_ne_nil {start : Nat} {tokens : List Token}
    (h : Decomposition start tokens) {token : Token} (hm : token ∈ tokens) : token.words ≠ [] := by
  obtain ⟨part, position⟩ := token
  cases part with
  | operator op phrase =>
    exact Operator.phrase_words_ne_nil
      (Operator.ofPhrase?_eq_some_iff.mp (h.operators op phrase position hm))
  | operand text =>
    obtain ⟨ws, hne, hw, rfl⟩ := h.operands text position hm
    rwa [words, Part.text, Text.words_unwords_of_isWord hw]

theorem tokenize_decomposition (sentence : Text) :
    Decomposition 0 (tokenize sentence) ∧
      wordsOf (tokenize sentence) = (Text.words sentence).map Text.lowercase := by
  rw [tokenize, sentenceWords_eq]
  apply ofWords_decomposition
  intro w hw
  obtain ⟨v, hv, rfl⟩ := List.mem_map.mp hw
  exact (Text.isWord_of_mem hv).lowercase

theorem tokenize_sentence {tokens : List Token} (h : Decomposition 0 tokens)
    (hlower : ∀ w ∈ wordsOf tokens, Text.lowercase w = w) :
    tokenize (sentence tokens) = tokens := by
  have hwords : Text.words (sentence tokens) = wordsOf tokens := by
    rw [sentence, Text.words_unwords, List.flatMap_map]
    rfl
  rw [tokenize, sentenceWords_eq, hwords, List.map_congr_left hlower, List.map_id',
    ofWords_wordsOf h]

end Token

/-- The tokens of a sentence are the one decomposition of its words in lowercase, and tokens that
are a decomposition of lowercase words are read back from the sentence they spell out. -/
theorem tokenize_is_the_decomposition :
    (∀ (sentence : Text) (tokens : List Token), tokenize sentence = tokens ↔
      Token.Decomposition 0 tokens ∧
        Token.wordsOf tokens = (Text.words sentence).map Text.lowercase) ∧
    ∀ tokens : List Token, Token.Decomposition 0 tokens →
      (∀ w ∈ Token.wordsOf tokens, Text.lowercase w = w) →
      tokenize (Token.sentence tokens) = tokens := by
  constructor
  · intro sentence tokens
    constructor
    · rintro rfl
      exact Token.tokenize_decomposition sentence
    · rintro ⟨h, hwords⟩
      rw [tokenize, sentenceWords_eq, ← hwords, Token.ofWords_wordsOf h]
  · intro tokens h hlower
    exact Token.tokenize_sentence h hlower

/-- Pieces of operator phrases at the edges of operands do not join with the operator. -/
theorem phrase_pieces_are_read_back :
    let tokens : List Token := [⟨.operand "two multiplied".toList, 0⟩,
      ⟨.operator .divide "divided by".toList, 2⟩, ⟨.operand "by three".toList, 4⟩]
    Token.Decomposition 0 tokens ∧ (∀ w ∈ Token.wordsOf tokens, Text.lowercase w = w) ∧
      tokenize (Token.sentence tokens) = tokens := by
  intro tokens
  have hscan : tokenize "two multiplied divided by by three".toList = tokens := by decide +kernel
  have h := ((tokenize_is_the_decomposition.1 _ tokens).mp hscan).1
  have hlower : ∀ w ∈ Token.wordsOf tokens, Text.lowercase w = w := by decide +kernel
  exact ⟨h, hlower, tokenize_is_the_decomposition.2 tokens h hlower⟩

end WordArithmetic
