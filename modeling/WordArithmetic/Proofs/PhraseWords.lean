import WordArithmetic.Expression.Analysis
import WordArithmetic.Proofs.HyphenatedText

namespace WordArithmetic.Numeral

/-- A blank or a hyphen anywhere divides a phrase into two that are read apart. -/
theorem phraseWords_append (x y : Text) {c : Char} (hc : Text.isBlank c = true ∨ c = '-') :
    phraseWords (x ++ c :: y) = phraseWords x ++ phraseWords y := by
  have hcaseless : Text.IsCaseless c := by
    rcases hc with hc | rfl
    · exact Text.isCaseless_of_isBlank hc
    · exact Text.isCaseless_hyphen
  obtain ⟨d, hd, hspaced⟩ :
      ∃ d, Text.isBlank d = true ∧ ∀ t, Text.spaced (c :: t) = d :: Text.spaced t := by
    by_cases hhyphen : c = '-'
    · rw [hhyphen]
      exact ⟨' ', Text.isBlank_space, Text.spaced_cons_hyphen⟩
    · exact ⟨c, hc.resolve_right hhyphen, Text.spaced_cons_of_ne hhyphen⟩
  rw [phraseWords, Text.lowercase_append x y hcaseless, Text.spaced_append, hspaced,
    Text.words_append_blank _ _ hd, List.filter_append, ← phraseWords, ← phraseWords]

@[simp]
theorem phraseWords_nil : phraseWords [] = [] := rfl

/-- A phrase has the number words of its words, each taken by itself. -/
theorem phraseWords_eq_flatMap (t : Text) : phraseWords t = (Text.words t).flatMap phraseWords :=
  Text.eq_flatMap_words phraseWords_nil (fun x y _ hc => phraseWords_append x y (.inl hc)) t

/-- Phrases with blanks between them are read apart. -/
theorem phraseWords_append_gap (x y : Text) {gap : Text} (hgap : Text.IsGap gap) :
    phraseWords (x ++ gap ++ y) = phraseWords x ++ phraseWords y := by
  obtain ⟨hne, hblank⟩ := hgap
  obtain ⟨c, more, rfl⟩ := List.exists_cons_of_ne_nil hne
  have hmore : phraseWords (more ++ y) = phraseWords y := by
    rw [phraseWords_eq_flatMap, Text.words_blanks_append, ← phraseWords_eq_flatMap]
    intro d hd
    exact hblank d (List.mem_cons_of_mem c hd)
  rw [List.append_assoc, List.cons_append, phraseWords_append x _ (.inl (hblank c (by simp))),
    hmore]

/-- A phrase and its lowercase form have the same number words. -/
theorem phraseWords_lowercase (t : Text) : phraseWords (Text.lowercase t) = phraseWords t := by
  rw [phraseWords, Text.lowercase_lowercase, phraseWords]

/-- The words that are scanned for operators are the words that numbers are read from. -/
theorem phraseWords_eq_flatMap_lowercase (t : Text) :
    phraseWords t = ((Text.words t).map Text.lowercase).flatMap phraseWords := by
  rw [phraseWords_eq_flatMap, List.flatMap_map]
  simp only [phraseWords_lowercase]

theorem phraseWords_unwords {ws : List Text} (hw : ∀ w ∈ ws, Text.IsWord w) :
    phraseWords (Text.unwords ws) = ws.flatMap phraseWords := by
  rw [phraseWords_eq_flatMap, Text.words_unwords_of_isWord hw]

/-- A phrase has the same words with spaces in the places of its hyphens. -/
theorem phraseWords_spaced (phrase : Text) :
    phraseWords (Text.spaced phrase) = phraseWords phrase := by
  rw [phraseWords, Text.lowercase_spaced, Text.spaced_spaced, ← phraseWords]

/-- A word that a phrase may be divided into: it is divided no further and stays as it is. -/
structure IsPhraseWord (w : Text) : Prop where
  isWord : Text.IsWord w
  small : ∀ c ∈ w, Text.IsSmall c
  hyphenless : '-' ∉ w
  ne_filler : w ≠ filler

theorem isPhraseWord_of_mem {phrase w : Text} (h : w ∈ phraseWords phrase) : IsPhraseWord w := by
  rw [phraseWords] at h
  obtain ⟨hw, hne⟩ := List.mem_filter.mp h
  refine ⟨Text.isWord_of_mem hw, ?_, ?_, by simpa using hne⟩
  · intro c hc
    have hm := Text.mem_of_mem_words hw hc
    rw [← Text.lowercase_spaced] at hm
    exact Text.isSmall_of_mem_lowercase c hm
  · intro hc
    exact Text.hyphen_notMem_spaced _ (Text.mem_of_mem_words hw hc)

theorem IsPhraseWord.phraseWords_eq {w : Text} (h : IsPhraseWord w) : phraseWords w = [w] := by
  rw [phraseWords, Text.lowercase_eq_self h.small, Text.spaced_eq_self h.hyphenless,
    Text.words_of_isWord h.isWord]
  simp [h.ne_filler]

/-- Words of phrases are read back from the phrase that they make up together. -/
theorem phraseWords_unwords_self {ws : List Text} (h : ∀ w ∈ ws, IsPhraseWord w) :
    phraseWords (Text.unwords ws) = ws := by
  rw [phraseWords_unwords fun w hw => (h w hw).isWord]
  induction ws with
  | nil => rfl
  | cons w ws ih =>
    rw [List.flatMap_cons, (h w (by simp)).phraseWords_eq,
      ih fun v hv => h v (List.mem_cons_of_mem w hv)]
    rfl

/-- A phrase is read word by word: what stands behind blanks or before them is lowercased and
divided by itself, also when the words were lowercased and joined with single spaces before, and
the words that come out are divided no further. -/
theorem phrases_are_divided_word_by_word :
    (∀ x gap y, Text.IsGap gap →
      Text.lowercase (x ++ gap ++ y) = Text.lowercase x ++ gap ++ Text.lowercase y ∧
      phraseWords (x ++ gap ++ y) = phraseWords x ++ phraseWords y) ∧
    ∀ phrase,
      let rejoined := Text.unwords (sentenceWords phrase)
      Text.lowercase (Text.lowercase phrase) = Text.lowercase phrase ∧
      Text.words (Text.lowercase phrase) = (Text.words phrase).map Text.lowercase ∧
      phraseWords phrase = (Text.words phrase).flatMap phraseWords ∧
      phraseWords rejoined = phraseWords phrase ∧
      phraseWords phrase = (Text.words rejoined).flatMap phraseWords ∧
      phraseWords (Text.unwords (phraseWords phrase)) = phraseWords phrase := by
  constructor
  · intro x gap y hgap
    exact ⟨Text.lowercase_append_gap x y hgap, phraseWords_append_gap x y hgap⟩
  · intro phrase rejoined
    have hrejoined : phraseWords rejoined = phraseWords phrase := by
      have hword : ∀ w ∈ sentenceWords phrase, Text.IsWord w := fun w hw => Text.isWord_of_mem hw
      rw [phraseWords_unwords hword, sentenceWords_eq, ← phraseWords_eq_flatMap_lowercase]
    refine ⟨Text.lowercase_lowercase phrase, Text.words_lowercase phrase,
      phraseWords_eq_flatMap phrase, hrejoined, ?_,
      phraseWords_unwords_self fun w hw => isPhraseWord_of_mem hw⟩
    rw [← phraseWords_eq_flatMap, hrejoined]

/-- A sigma takes its final form before a blank and not behind one, and a hyphen divides no less
than a blank does. -/
theorem words_divided_at_blanks :
    let x := "ΟΔΟΣ And-Twenty".toList
    let y := "Σ-FIVE and".toList
    let words := ["οδος".toList, "twenty".toList, "σ".toList, "five".toList]
    Text.IsGap "\t ".toList ∧
      phraseWords (x ++ "\t ".toList ++ y) = words ∧ phraseWords x ++ phraseWords y = words := by
  intro x y words
  have hgap : Text.IsGap "\t ".toList := ⟨by decide, List.all_eq_true.mp (by decide)⟩
  have hparts : phraseWords x ++ phraseWords y = words := by decide +kernel
  exact ⟨hgap, ((phrases_are_divided_word_by_word.1 x _ y hgap).2).trans hparts, hparts⟩

end WordArithmetic.Numeral

namespace WordArithmetic

/-- Looking for a number word in each word of an operand is looking for one in all of it. -/
theorem namesNumber_eq (text : Text) :
    namesNumber text = (Numeral.phraseWords text).any isNumberWord := by
  rw [namesNumber, Numeral.phraseWords_eq_flatMap text, List.any_flatMap]

end WordArithmetic
