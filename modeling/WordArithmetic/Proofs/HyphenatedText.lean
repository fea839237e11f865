import WordArithmetic.Proofs.LetterCase

namespace WordArithmetic.Text

theorem spaced_append (x y : Text) : spaced (x ++ y) = spaced x ++ spaced y :=
  List.map_append

theorem spaced_cons_hyphen (t : Text) : spaced ('-' :: t) = ' ' :: spaced t := rfl

theorem spaced_cons_of_ne {c : Char} (hc : c ≠ '-') (t : Text) :
    spaced (c :: t) = c :: spaced t := by
  rw [spaced, List.map_cons, if_neg hc, ← spaced]

theorem spaced_eq_self {t : Text} (ht : '-' ∉ t) : spaced t = t := by
  induction t with
  | nil => rfl
  | cons c t ih =>
    obtain ⟨hc, ht⟩ := not_or.mp (mt List.mem_cons.mpr ht)
    rw [spaced_cons_of_ne (Ne.symm hc), ih ht]

theorem hyphen_notMem_spaced (t : Text) : '-' ∉ spaced t := by
  intro hm
  obtain ⟨c, _, hc⟩ := List.mem_map.mp hm
  split at hc
  · exact absurd hc (by decide)
  · contradiction

theorem spaced_spaced (t : Text) : spaced (spaced t) = spaced t :=
  spaced_eq_self (hyphen_notMem_spaced t)

theorem hyphen_lt_lowercaseOfFirst : ∀ run ∈ capitalRuns, '-'.toNat < run.lowercaseOfFirst := by
  decide +kernel

/-- A hyphen is no lowercase form of another character. -/
theorem hyphen_notMem_lowercaseChar {c : Char} (hc : c ≠ '-') : '-' ∉ lowercaseChar c := by
  unfold lowercaseChar
  split
  · decide
  · rw [List.mem_singleton]
    intro he
    rcases lowercaseCode_cases c.toNat capitalRuns with hcode | ⟨run, hm, _, _, _, hcode⟩
    · rw [hcode, Char.ofNat_toNat] at he
      exact hc he.symm
    · have hlt := hyphen_lt_lowercaseOfFirst run hm
      rw [hcode] at he
      rcases toNat_ofNat_cases (run.lowercaseOfFirst + (c.toNat - run.first)) with hn | hz
      · rw [← he] at hn
        omega
      · rw [hz] at he
        exact absurd he (by decide)

theorem isCaseless_space : IsCaseless ' ' :=
  isCaseless_of_isBlank isBlank_space

/-- A hyphen ends the search for the next letter as a space does. -/
theorem startsWithLetter_spaced (t : Text) : startsWithLetter (spaced t) = startsWithLetter t := by
  unfold startsWithLetter
  induction t with
  | nil => rfl
  | cons c t ih =>
    by_cases hc : c = '-'
    · subst hc
      simp [spaced_cons_hyphen, isCaseless_hyphen.not_isCaseIgnorable,
        isCaseless_hyphen.not_isCased, isCaseless_space.not_isCaseIgnorable,
        isCaseless_space.not_isCased]
    · rw [spaced_cons_of_ne hc]
      cases hd : isCaseIgnorable c with
      | true => simpa [hd] using ih
      | false => simp [hd]

/-- It does not matter whether a text is lowercased before its hyphens become spaces or after. -/
theorem lowercase_spaced (t : Text) : lowercase (spaced t) = spaced (lowercase t) := by
  have hafter (after : Bool) :
      lowercaseAfter after (spaced t) = spaced (lowercaseAfter after t) := by
    induction t generalizing after with
    | nil => rfl
    | cons c t ih =>
      by_cases hc : c = '-'
      · subst hc
        have hspace := lowercaseAfter_append after [] (spaced t) isCaseless_space
        have hhyphen := lowercaseAfter_append after [] t isCaseless_hyphen
        rw [List.nil_append] at hspace hhyphen
        rw [spaced_cons_hyphen, hspace, hhyphen, lowercase, ih]
        rfl
      · rw [spaced_cons_of_ne hc, lowercaseAfter, lowercaseAfter, startsWithLetter_spaced,
          spaced_append, ih]
        congr 1
        split
        · split <;> rfl
        · rw [spaced_eq_self (hyphen_notMem_lowercaseChar hc)]
  exact hafter false

/-- Where hyphens become spaces, each word is divided by itself. -/
theorem words_spaced (t : Text) :
    words (spaced t) = (words t).flatMap fun w => words (spaced w) := by
  apply eq_flatMap_words (f := fun t => words (spaced t))
  · exact words_nil
  · intro x y c hc
    have hne : c ≠ '-' := by
      rintro rfl
      exact absurd hc (by decide)
    rw [spaced_append, spaced_cons_of_ne hne, words_append_blank _ _ hc]

end WordArithmetic.Text
