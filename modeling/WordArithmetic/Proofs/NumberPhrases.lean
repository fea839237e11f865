import WordArithmetic.Proofs.Decomposition
import WordArithmetic.Proofs.ExactNumerals
import WordArithmetic.Proofs.PhraseWords

namespace WordArithmetic

theorem isNumberWord_of_ofText? {w : Text} {n : NumberWord} (h : NumberWord.ofText? w = some n) :
    isNumberWord w = true := by
  simp [isNumberWord, h]

namespace NumberWord

def characters : List Char := "0123456789abcdefghijklmnopqrstuvwxyz".toList

theorem mem_characters_of_isDigit {c : Char} (h : c.isDigit = true) : c ∈ characters := by
  have hall : ∀ n < 10, Char.ofNat (48 + n) ∈ characters := by decide
  obtain ⟨hl, hu⟩ := Char.isDigit_iff_toNat.mp h
  simp only [Char.reduceToNat] at hl hu
  have hm := hall (c.toNat - 48) (by omega)
  rwa [Nat.add_sub_cancel' hl, Char.ofNat_toNat] at hm

theorem mem_characters_of_isLower {c : Char} (h : c.isLower = true) : c ∈ characters := by
  have hall : ∀ n < 26, Char.ofNat (97 + n) ∈ characters := by decide
  obtain ⟨hl, hu⟩ := Bool.and_eq_true_iff.mp h
  have hl : 97 ≤ c.toNat := UInt32.le_iff_toNat_le.mp (of_decide_eq_true hl)
  have hu : c.toNat ≤ 122 := UInt32.le_iff_toNat_le.mp (of_decide_eq_true hu)
  have hm := hall (c.toNat - 97) (by omega)
  rwa [Nat.add_sub_cancel' hl, Char.ofNat_toNat] at hm

theorem isNumeral_iff {w : Text} : isNumeral w = true ↔ w ≠ [] ∧ ∀ c ∈ w, c.isDigit = true := by
  simp [isNumeral]

theorem ofText?_numeral {w : Text} (hw : isNumeral w = true) :
    ofText? w = some (.amount (Nat.ofDigitChars 10 w 0)) := by
  simp [ofText?, hw]

/-- A number word is a numeral or stands in one of the tables. -/
theorem isNumeral_or_mem {w : Text} (h : isNumberWord w = true) :
    isNumeral w = true ∨ ∃ entry ∈ amounts ++ scales, entry.1 = w := by
  have hlookup {table : List (Text × Nat)} {n : Nat} (hn : table.lookup w = some n) :
      (w, n) ∈ table := by
    obtain ⟨before, after, hs, _⟩ := List.lookup_eq_some_iff.mp hn
    simp [hs]
  rw [isNumberWord, ofText?] at h
  split at h
  · rename_i hnumeral
    exact .inl hnumeral
  · split at h
    · rename_i n hn
      exact .inr ⟨_, List.mem_append_left _ (hlookup hn), rfl⟩
    · rw [Option.isSome_map] at h
      obtain ⟨n, hn⟩ := Option.isSome_iff_exists.mp h
      exact .inr ⟨_, List.mem_append_right _ (hlookup hn), rfl⟩

theorem characters_of_isNumberWord {w : Text} (h : isNumberWord w = true) :
    w ≠ [] ∧ ∀ c ∈ w, c ∈ characters := by
  rcases isNumeral_or_mem h with hnumeral | ⟨entry, hm, rfl⟩
  · obtain ⟨hne, hdigits⟩ := isNumeral_iff.mp hnumeral
    refine ⟨hne, ?_⟩
    intro c hc
    exact mem_characters_of_isDigit (hdigits c hc)
  · have hall : ∀ entry ∈ amounts ++ scales,
        entry.1 ≠ [] ∧ entry.1.all Char.isLower = true := by
      decide
    obtain ⟨hne, hletters⟩ := hall entry hm
    refine ⟨hne, ?_⟩
    intro c hc
    exact mem_characters_of_isLower (List.all_eq_true.mp hletters c hc)

/-- A test that all the characters pass is passed throughout a number word. -/
theorem forall_mem_numberWord {w : Text} (h : isNumberWord w = true) {p : Char → Bool}
    (hp : characters.all p = true) : ∀ c ∈ w, p c = true := by
  intro c hc
  apply List.all_eq_true.mp hp
  exact (characters_of_isNumberWord h).2 c hc

theorem isWord {w : Text} (h : isNumberWord w = true) : Text.IsWord w := by
  have hblank : characters.all (!Text.isBlank ·) = true := by decide
  refine ⟨(characters_of_isNumberWord h).1, ?_⟩
  intro c hc
  simpa using forall_mem_numberWord h hblank c hc

theorem isSmall {w : Text} (h : isNumberWord w = true) : ∀ c ∈ w, Text.IsSmall c := by
  have hkept : characters.all (fun c => c ≠ 'Σ' && Text.lowercaseChar c = [c]) = true := by
    decide
  intro c hc
  have hsmall := forall_mem_numberWord h hkept c hc
  simpa [Text.IsSmall] using hsmall

theorem lowercase {w : Text} (h : isNumberWord w = true) : Text.lowercase w = w :=
  Text.lowercase_eq_self (isSmall h)

end NumberWord

namespace Numeral

theorem isPhraseWord_of_isNumberWord {w : Text} (h : isNumberWord w = true) : IsPhraseWord w where
  isWord := NumberWord.isWord h
  small := NumberWord.isSmall h
  hyphenless := by
    have hnone : NumberWord.characters.all (· ≠ '-') = true := by decide
    intro hc
    simpa using NumberWord.forall_mem_numberWord h hnone '-' hc
  ne_filler := by
    rintro rfl
    exact absurd h (by decide)

/-- A number word is one word of a phrase, as it stands. -/
theorem phraseWords_of_isNumberWord {w : Text} (h : isNumberWord w = true) :
    phraseWords w = [w] :=
  (isPhraseWord_of_isNumberWord h).phraseWords_eq

/-- A word in lowercase that a number phrase may hold: none of its parts is passed over, and no
operator begins with it. -/
structure IsPlain (w : Text) : Prop where
  isWord : Text.IsWord w
  lowercase : Text.lowercase w = w
  known : ∀ part ∈ phraseWords w, isNumberWord part = true
  startsNone : ∀ entry ∈ Operator.phrases, (Text.words entry.1).head? ≠ some w

theorem isPlain_of_isNumberWord {w : Text} (h : isNumberWord w = true) : IsPlain w where
  isWord := NumberWord.isWord h
  lowercase := NumberWord.lowercase h
  known := by
    intro part hm
    rw [phraseWords_of_isNumberWord h, List.mem_singleton] at hm
    rw [hm, h]
  startsNone := by
    have hall : ∀ entry ∈ Operator.phrases, ∀ v, (Text.words entry.1).head? = some v →
        isNumberWord v = false := by
      decide
    intro entry hm he
    rw [hall entry hm w he] at h
    contradiction

theorem isPlain_of_ofText? {w : Text} {n : NumberWord} (h : NumberWord.ofText? w = some n) :
    IsPlain w :=
  isPlain_of_isNumberWord (isNumberWord_of_ofText? h)

/-- Two such words with a hyphen between them are another one. -/
theorem IsPlain.hyphenated {v w : Text} (hv : IsPlain v) (hw : IsPlain w) :
    IsPlain (v ++ '-' :: w) where
  isWord := by
    refine ⟨by simp, ?_⟩
    intro c hc
    simp only [List.mem_append, List.mem_cons] at hc
    rcases hc with hc | rfl | hc
    · exact hv.isWord.2 c hc
    · decide
    · exact hw.isWord.2 c hc
  lowercase := by
    rw [Text.lowercase_append v w Text.isCaseless_hyphen, hv.lowercase, hw.lowercase]
  known := by
    intro part hm
    rw [phraseWords_append v w (.inr rfl)] at hm
    rcases List.mem_append.mp hm with hm | hm
    · exact hv.known part hm
    · exact hw.known part hm
  startsNone := by
    have hall : ∀ entry ∈ Operator.phrases, ∀ u, (Text.words entry.1).head? = some u →
        u.contains '-' = false := by
      decide
    intro entry hm he
    have hnone := hall entry hm _ he
    simp at hnone

theorem freeOfPhrases_of_plain {ws : List Text} (h : ∀ w ∈ ws, IsPlain w) :
    Operator.FreeOfPhrases ws := by
  intro entry hm hin
  cases hw : Text.words entry.1 with
  | nil => exact Operator.phrase_words_ne_nil hm hw
  | cons v vs =>
    have hv : v ∈ ws := by
      apply hin.subset
      simp [hw]
    apply (h v hv).startsNone entry hm
    rw [hw, List.head?_cons]

/-- A phrase of known words is read to its end or up to where it outgrows the range, and none of
them is passed over. -/
theorem readWords_skipped {ws : List Text} (h : ∀ w ∈ ws, isNumberWord w = true) (t : Tally) :
    (readWords t ws).skipped = [] := by
  induction ws generalizing t with
  | nil => rfl
  | cons w ws ih =>
    have hw := h w (by simp)
    have hrest := ih (fun v hv => h v (List.mem_cons_of_mem w hv))
    cases hn : NumberWord.ofText? w with
    | none => simp [isNumberWord, hn] at hw
    | some n =>
      simp only [readWords, hn]
      split
      · exact hrest _
      · rfl

end Numeral

theorem Warning.ofOperand_eq_nil {text : Text} (position : Nat)
    (h : ∀ w ∈ Text.words text, Numeral.unknownWords w = []) :
    Warning.ofOperand text position = [] := by
  simp only [Warning.ofOperand, List.flatMap_eq_nil_iff, List.map_eq_nil_iff]
  rintro ⟨w, place⟩ hm
  apply h
  exact List.fst_mem_of_mem_zipIdx hm

/-- An operand of known words has their exact value, and nothing is noted of it. -/
theorem Notes.readOperand_of_plain (notes : Notes) {ws : List Text} {v : Value}
    (hplain : ∀ w ∈ ws, Numeral.IsPlain w) (hne : ws.flatMap Numeral.phraseWords ≠ [])
    (hv : v.toInt = Numeral.exactOf (ws.flatMap Numeral.phraseWords)) (position : Nat) :
    notes.readOperand id ⟨.operand (Text.unwords ws), position⟩ = ⟨.ok v, notes⟩ := by
  have hwords : ∀ w ∈ ws, Text.IsWord w := by
    intro w hw
    exact (hplain w hw).isWord
  have hphrase := Numeral.phraseWords_unwords hwords
  have hknown : ∀ part ∈ Numeral.phraseWords (Text.unwords ws), isNumberWord part = true := by
    intro part hm
    rw [hphrase] at hm
    obtain ⟨w, hw, hm⟩ := List.mem_flatMap.mp hm
    exact (hplain w hw).known part hm
  have hnamed : namesNumber (Text.unwords ws) = true := by
    obtain ⟨part, hm⟩ := List.exists_mem_of_ne_nil _ hne
    rw [← hphrase] at hm
    rw [namesNumber_eq, List.any_eq_true]
    exact ⟨part, hm, hknown part hm⟩
  have hwarnings : Warning.ofOperand (Text.unwords ws) position = [] := by
    apply Warning.ofOperand_eq_nil
    intro w hw
    rw [Text.words_unwords_of_isWord hwords] at hw
    simpa [Numeral.unknownWords] using (hplain w hw).known
  have hvalue : (Numeral.read (Text.unwords ws)).value = some v := by
    rw [Numeral.read_value, Value.ofInt?_eq_some_iff, hv, Numeral.exactValue, hphrase]
  have hskipped : (Numeral.read (Text.unwords ws)).skipped = [] := by
    rw [Numeral.read_eq_readWords]
    exact Numeral.readWords_skipped hknown _
  simp [readOperand, hnamed, hwarnings, hvalue, hskipped]

end WordArithmetic
