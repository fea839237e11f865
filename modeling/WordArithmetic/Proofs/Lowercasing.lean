import WordArithmetic.Proofs.Words
import WordArithmetic.Sentence.Token
import WordArithmetic.Text.Lowercase

namespace WordArithmetic.Text

theorem CodeRanges.mem_of_contains {c : Char} {ranges : CodeRanges}
    (h : ranges.contains c = true) : ∃ r ∈ ranges, r.1 ≤ c.toNat ∧ c.toNat ≤ r.2 := by
  induction ranges with
  | nil => simp [CodeRanges.contains] at h
  | cons r ranges ih =>
    simp only [CodeRanges.contains, Bool.and_eq_true, Bool.or_eq_true, decide_eq_true_eq] at h
    rcases h with ⟨hf, hl | hr⟩
    · exact ⟨r, by simp, hf, hl⟩
    · obtain ⟨s, hs, hc⟩ := ih hr
      exact ⟨s, List.mem_cons_of_mem r hs, hc⟩

def CodeRanges.Apart (a b : CodeRanges) : Prop :=
  ∀ r ∈ a, ∀ s ∈ b, r.2 < s.1 ∨ s.2 < r.1

instance (a b : CodeRanges) : Decidable (CodeRanges.Apart a b) :=
  inferInstanceAs (Decidable (∀ r ∈ a, ∀ s ∈ b, r.2 < s.1 ∨ s.2 < r.1))

theorem CodeRanges.Apart.outside {a b : CodeRanges} (h : CodeRanges.Apart a b) {c : Char}
    (hc : a.contains c = true) : ∀ s ∈ b, ¬ (s.1 ≤ c.toNat ∧ c.toNat ≤ s.2) := by
  intro s hs hin
  obtain ⟨r, hr, hl, hu⟩ := CodeRanges.mem_of_contains hc
  have := h r hr s hs
  omega

theorem CodeRanges.Apart.not_contains {a b : CodeRanges} (h : CodeRanges.Apart a b) {c : Char}
    (hc : a.contains c = true) : b.contains c = false := by
  cases hb : b.contains c with
  | false => rfl
  | true =>
    obtain ⟨s, hs, hin⟩ := CodeRanges.mem_of_contains hb
    exact absurd hin (h.outside hc s hs)

def capitalRanges : CodeRanges :=
  capitalRuns.map fun run => (run.first, run.last)

def smallRanges : CodeRanges :=
  capitalRuns.map fun run => (run.lowercaseOfFirst, run.lowercaseOfFirst + (run.last - run.first))

/-- No blank has anything to do with case. -/
theorem blankRanges_apart :
    CodeRanges.Apart blankRanges casedRanges ∧ CodeRanges.Apart blankRanges caseIgnorableRanges ∧
      CodeRanges.Apart blankRanges capitalRanges ∧ CodeRanges.Apart blankRanges smallRanges := by
  decide +kernel

theorem not_isCased_of_isBlank {c : Char} (hc : isBlank c = true) : isCased c = false := by
  obtain ⟨hcased, _⟩ := blankRanges_apart
  exact hcased.not_contains hc

theorem not_isCaseIgnorable_of_isBlank {c : Char} (hc : isBlank c = true) :
    isCaseIgnorable c = false := by
  obtain ⟨_, hignorable, _⟩ := blankRanges_apart
  exact hignorable.not_contains hc

/-- A code point without a lowercase form stays as it is. -/
theorem lowercaseCode_cases (code : Nat) (runs : List CapitalRun) :
    lowercaseCode code runs = code ∨ ∃ run ∈ runs, run.first ≤ code ∧ code ≤ run.last ∧
      (code - run.first) % run.step = 0 ∧
      lowercaseCode code runs = run.lowercaseOfFirst + (code - run.first) := by
  induction runs with
  | nil => exact .inl rfl
  | cons run runs ih =>
    unfold lowercaseCode
    split
    · exact .inl rfl
    · rename_i hf
      split
      · rename_i hl
        split
        · rename_i hstep
          exact .inr ⟨run, by simp, by omega, hl, hstep, rfl⟩
        · exact .inl rfl
      · rcases ih with he | ⟨other, hm, hin⟩
        · exact .inl he
        · exact .inr ⟨other, List.mem_cons_of_mem run hm, hin⟩

theorem toNat_ofNat_cases (n : Nat) : (Char.ofNat n).toNat = n ∨ Char.ofNat n = '\x00' := by
  by_cases hn : n.isValidChar
  · refine .inl ?_
    rw [Char.ofNat, dif_pos hn]
    rfl
  · exact .inr (dif_neg hn)

theorem lowercaseChar_blank {c : Char} (hc : isBlank c = true) : lowercaseChar c = [c] := by
  have hdotted : c ≠ 'İ' := by
    intro he
    rw [he] at hc
    exact absurd hc (by decide)
  have hcode : lowercaseCode c.toNat capitalRuns = c.toNat := by
    rcases lowercaseCode_cases c.toNat capitalRuns with he | ⟨run, hm, hf, hl, _⟩
    · exact he
    · obtain ⟨_, _, hapart, _⟩ := blankRanges_apart
      exact absurd ⟨hf, hl⟩ (hapart.outside hc _ (List.mem_map.mpr ⟨run, hm, rfl⟩))
  rw [lowercaseChar, if_neg hdotted, hcode, Char.ofNat_toNat]

/-- The lowercase form of a character that is no blank holds no blank. -/
theorem not_isBlank_lowercaseChar {c : Char} (hc : isBlank c = false) :
    ∀ d ∈ lowercaseChar c, isBlank d = false := by
  unfold lowercaseChar
  split
  · intro d hd
    simp only [List.mem_cons, List.not_mem_nil, or_false] at hd
    rcases hd with rfl | rfl
    · decide
    · decide
  · intro d hd
    rw [List.mem_singleton] at hd
    subst d
    rcases lowercaseCode_cases c.toNat capitalRuns with he | ⟨run, hm, hf, hl, _, he⟩
    · rw [he, Char.ofNat_toNat]
      exact hc
    · rw [he]
      cases hb : isBlank (Char.ofNat (run.lowercaseOfFirst + (c.toNat - run.first))) with
      | false => rfl
      | true =>
        obtain ⟨_, _, _, hapart⟩ := blankRanges_apart
        have hout := hapart.outside hb _ (List.mem_map.mpr ⟨run, hm, rfl⟩)
        rcases toNat_ofNat_cases (run.lowercaseOfFirst + (c.toNat - run.first)) with hn | hz
        · rw [hn] at hout
          exact absurd ⟨by simp, by simp; omega⟩ hout
        · rw [hz] at hb
          exact absurd hb (by decide)

theorem lowercaseChar_ne_nil (c : Char) : lowercaseChar c ≠ [] := by
  unfold lowercaseChar
  split <;> simp

/-- Characters that are their own lowercase forms, with no sigma among them, stay as they are. -/
theorem lowercase_eq_self {t : Text} (ht : ∀ c ∈ t, c ≠ 'Σ' ∧ lowercaseChar c = [c]) :
    lowercase t = t := by
  have hafter (after : Bool) : lowercaseAfter after t = t := by
    induction t generalizing after with
    | nil => rfl
    | cons c t ih =>
      obtain ⟨hsigma, hc⟩ := ht c (by simp)
      have hrest := ih (fun d hd => ht d (List.mem_cons_of_mem c hd))
      rw [lowercaseAfter, if_neg hsigma, hc, hrest]
      rfl
  exact hafter false

/-- A character that has no case and lies between letters, so that a word for case ends at it. -/
structure IsCaseless (c : Char) : Prop where
  not_isCased : isCased c = false
  not_isCaseIgnorable : isCaseIgnorable c = false
  lowercase : lowercaseChar c = [c]

theorem IsCaseless.ne_sigma {c : Char} (hc : IsCaseless c) : c ≠ 'Σ' := by
  intro he
  have hcased := hc.not_isCased
  rw [he] at hcased
  exact absurd hcased (by decide)

theorem isCaseless_of_isBlank {c : Char} (hc : isBlank c = true) : IsCaseless c :=
  ⟨not_isCased_of_isBlank hc, not_isCaseIgnorable_of_isBlank hc, lowercaseChar_blank hc⟩

theorem isCaseless_hyphen : IsCaseless '-' :=
  ⟨by decide, by decide, by decide⟩

/-- A caseless character ends the search for the next letter as the end of the text does. -/
theorem startsWithLetter_append (x y : Text) {c : Char} (hc : IsCaseless c) :
    startsWithLetter (x ++ c :: y) = startsWithLetter x := by
  unfold startsWithLetter
  induction x with
  | nil => simp [hc.not_isCaseIgnorable, hc.not_isCased]
  | cons d x ih =>
    cases hd : isCaseIgnorable d with
    | true => simpa [hd] using ih
    | false => simp [hd]

theorem lowercaseAfter_append (after : Bool) (x y : Text) {c : Char} (hc : IsCaseless c) :
    lowercaseAfter after (x ++ c :: y) = lowercaseAfter after x ++ c :: lowercase y := by
  induction x generalizing after with
  | nil =>
    simp [lowercaseAfter, lowercase, hc.ne_sigma, hc.lowercase, hc.not_isCaseIgnorable,
      hc.not_isCased]
  | cons d x ih =>
    simp only [List.cons_append, lowercaseAfter, startsWithLetter_append x y hc, ih,
      List.append_assoc]

/-- The parts of a text on the two sides of a caseless character are lowercased apart. -/
theorem lowercase_append (x y : Text) {c : Char} (hc : IsCaseless c) :
    lowercase (x ++ c :: y) = lowercase x ++ c :: lowercase y :=
  lowercaseAfter_append false x y hc

theorem lowercase_blanks_append {x : Text} (hx : ∀ c ∈ x, isBlank c = true) (y : Text) :
    lowercase (x ++ y) = x ++ lowercase y := by
  induction x with
  | nil => rfl
  | cons c x ih =>
    have hrest := ih fun d hd => hx d (List.mem_cons_of_mem c hd)
    have hc := lowercase_append [] (x ++ y) (isCaseless_of_isBlank (hx c (by simp)))
    rw [List.cons_append, List.cons_append, ← hrest]
    exact hc

/-- No word is lowercased otherwise for what stands behind a blank or before one. -/
theorem lowercase_append_gap (x y : Text) {gap : Text} (hgap : IsGap gap) :
    lowercase (x ++ gap ++ y) = lowercase x ++ gap ++ lowercase y := by
  obtain ⟨hne, hblank⟩ := hgap
  obtain ⟨c, more, rfl⟩ := List.exists_cons_of_ne_nil hne
  have hmore := lowercase_blanks_append (fun d hd => hblank d (List.mem_cons_of_mem c hd)) y
  have hc := isCaseless_of_isBlank (hblank c (by simp))
  rw [List.append_assoc, List.cons_append, lowercase_append x _ hc, hmore, List.append_assoc,
    List.cons_append]

theorem not_isBlank_lowercaseAfter {after : Bool} {t : Text} (ht : ∀ c ∈ t, isBlank c = false) :
    ∀ d ∈ lowercaseAfter after t, isBlank d = false := by
  induction t generalizing after with
  | nil => simp [lowercaseAfter]
  | cons c t ih =>
    intro d hd
    rw [lowercaseAfter, List.mem_append] at hd
    rcases hd with hd | hd
    · split at hd
      · rw [List.mem_singleton] at hd
        subst d
        split <;> decide
      · exact not_isBlank_lowercaseChar (ht c (by simp)) d hd
    · exact ih (fun e he => ht e (List.mem_cons_of_mem c he)) d hd

theorem lowercase_ne_nil {t : Text} (ht : t ≠ []) : lowercase t ≠ [] := by
  cases t with
  | nil => contradiction
  | cons c t =>
    simp only [lowercase, lowercaseAfter, ne_eq, List.append_eq_nil_iff, not_and]
    split
    · simp
    · exact fun h => absurd h (lowercaseChar_ne_nil c)

theorem IsWord.lowercase {w : Text} (hw : IsWord w) : IsWord (lowercase w) :=
  ⟨lowercase_ne_nil hw.1, not_isBlank_lowercaseAfter hw.2⟩

/-- Lowercasing goes word by word. -/
theorem words_lowercase (t : Text) : words (lowercase t) = (words t).map lowercase := by
  have hwords : words (lowercase t) = (words t).flatMap fun w => words (lowercase w) := by
    apply eq_flatMap_words (f := fun t => words (lowercase t))
    · exact words_nil
    · intro x y c hc
      rw [lowercase_append x y (isCaseless_of_isBlank hc), words_append_blank _ _ hc]
  have hlower : ∀ w ∈ (words t).map lowercase, IsWord w := by
    intro w hw
    obtain ⟨v, hv, rfl⟩ := List.mem_map.mp hw
    exact (isWord_of_mem hv).lowercase
  rw [hwords, ← flatMap_words hlower, List.flatMap_map]

end WordArithmetic.Text

namespace WordArithmetic

/-- The words that are scanned for operators are the words of the sentence in lowercase. -/
theorem sentenceWords_eq (sentence : Text) :
    sentenceWords sentence = (Text.words sentence).map Text.lowercase := by
  rw [sentenceWords, Text.words_lowercase, Text.words_trim]

end WordArithmetic
