import WordArithmetic.Proofs.Lowercasing

namespace WordArithmetic.Text

/-- Whether no lowercase form of a run is a capital of other runs. Where the ranges overlap, the
forms lie between the capitals. -/
def CapitalRun.clears (run : CapitalRun) : List CapitalRun → Bool
  | [] => true
  | other :: rest =>
    run.lowercaseOfFirst + (run.last - run.first) < other.first ||
      (other.last < run.lowercaseOfFirst ||
        other.step = 2 && (run.lowercaseOfFirst + other.first) % 2 = 1 &&
          (run.step = 2 || run.first = run.last)) &&
      run.clears rest

theorem CapitalRun.lowercaseCode_of_clears {run : CapitalRun} {k : Nat}
    (hk : k ≤ run.last - run.first) (hstep : k % run.step = 0) {runs : List CapitalRun}
    (h : run.clears runs = true) :
    lowercaseCode (run.lowercaseOfFirst + k) runs = run.lowercaseOfFirst + k := by
  induction runs with
  | nil => rfl
  | cons other rest ih =>
    simp only [clears, Bool.or_eq_true, Bool.and_eq_true, decide_eq_true_eq] at h
    unfold lowercaseCode
    split
    · rfl
    · -- The form lies before the other run, behind it, or between two of its capitals.
      rcases h with hbefore | ⟨hbehind | ⟨⟨htwo, hodd⟩, heven⟩, hrest⟩
      · omega
      · rw [if_neg (by omega), ih hrest]
      · have hparity : k % 2 = 0 := by
          rcases heven with heven | hone
          · rwa [heven] at hstep
          · omega
        split
        · rw [htwo, if_neg (by omega)]
        · exact ih hrest

/-- The lowercase forms have none of their own, and the dotted capital I is not among them. -/
theorem capitalRuns_clear : ∀ run ∈ capitalRuns, run.clears capitalRuns = true ∧
    (run.lowercaseOfFirst + (run.last - run.first) < 0x0130 ∨ 0x0130 < run.lowercaseOfFirst) := by
  decide +kernel

def IsSmall (c : Char) : Prop :=
  c ≠ 'Σ' ∧ lowercaseChar c = [c]

instance (c : Char) : Decidable (IsSmall c) :=
  inferInstanceAs (Decidable (_ ∧ _))

theorem isSmall_of_lowercaseCode {c : Char} (hcode : lowercaseCode c.toNat capitalRuns = c.toNat)
    (hdotted : c ≠ 'İ') : IsSmall c := by
  constructor
  · rintro rfl
    exact absurd hcode (by decide)
  · rw [lowercaseChar, if_neg hdotted, hcode, Char.ofNat_toNat]

theorem isSmall_of_mem_lowercaseChar (c : Char) : ∀ d ∈ lowercaseChar c, IsSmall d := by
  unfold lowercaseChar
  split
  · exact List.forall_mem_cons.mpr ⟨by decide, List.forall_mem_singleton.mpr (by decide)⟩
  · rename_i hdotted
    intro d hd
    rw [List.mem_singleton] at hd
    subst d
    rcases lowercaseCode_cases c.toNat capitalRuns with he | ⟨run, hm, hf, hl, hstep, he⟩
    · rw [he, Char.ofNat_toNat]
      exact isSmall_of_lowercaseCode he hdotted
    · obtain ⟨hclear, hout⟩ := capitalRuns_clear run hm
      have hsmall := CapitalRun.lowercaseCode_of_clears (by omega) hstep hclear
      rw [he]
      rcases toNat_ofNat_cases (run.lowercaseOfFirst + (c.toNat - run.first)) with hn | hz
      · apply isSmall_of_lowercaseCode
        · rw [hn, hsmall]
        · intro hi
          rw [hi] at hn
          have hn : 0x0130 = run.lowercaseOfFirst + (c.toNat - run.first) := hn
          omega
      · rw [hz]
        decide

theorem isSmall_of_mem_lowercase {t : Text} : ∀ d ∈ lowercase t, IsSmall d := by
  have hafter (after : Bool) : ∀ d ∈ lowercaseAfter after t, IsSmall d := by
    induction t generalizing after with
    | nil => simp [lowercaseAfter]
    | cons c t ih =>
      intro d hd
      rw [lowercaseAfter, List.mem_append] at hd
      rcases hd with hd | hd
      · split at hd
        · rw [List.mem_singleton] at hd
          subst d
          split <;> decide
        · exact isSmall_of_mem_lowercaseChar c d hd
      · exact ih _ d hd
  exact hafter false

/-- Lowercasing leaves nothing to lowercase. -/
theorem lowercase_lowercase (t : Text) : lowercase (lowercase t) = lowercase t :=
  lowercase_eq_self isSmall_of_mem_lowercase

theorem toLower_cases (c : Char) : c.toLower = c ∨ ∃ n < 26, c = Char.ofNat (65 + n) := by
  by_cases h : c.val ≥ 'A'.val ∧ c.val ≤ 'Z'.val
  · have hl : 65 ≤ c.toNat := UInt32.le_iff_toNat_le.mp h.1
    have hu : c.toNat ≤ 90 := UInt32.le_iff_toNat_le.mp h.2
    refine .inr ⟨c.toNat - 65, by omega, ?_⟩
    rw [Nat.add_sub_cancel' hl, Char.ofNat_toNat]
  · exact .inl (dif_neg h)

/-- Nothing that is asked of a character depends on the case of an ASCII letter. -/
theorem toLower_alike (c : Char) :
    lowercaseChar c.toLower = lowercaseChar c ∧ (c.toLower = 'Σ' ↔ c = 'Σ') ∧
      isCased c.toLower = isCased c ∧ isCaseIgnorable c.toLower = isCaseIgnorable c ∧
      isBlank c.toLower = isBlank c := by
  rcases toLower_cases c with h | ⟨n, hn, rfl⟩
  · simp [h]
  · have hall : ∀ n < 26, let c := Char.ofNat (65 + n)
        lowercaseChar c.toLower = lowercaseChar c ∧ (c.toLower = 'Σ' ↔ c = 'Σ') ∧
          isCased c.toLower = isCased c ∧ isCaseIgnorable c.toLower = isCaseIgnorable c ∧
          isBlank c.toLower = isBlank c := by
      decide
    exact hall n hn

theorem startsWithLetter_map_toLower (t : Text) :
    startsWithLetter (t.map Char.toLower) = startsWithLetter t := by
  unfold startsWithLetter
  induction t with
  | nil => rfl
  | cons c t ih =>
    obtain ⟨_, _, hcased, hignorable, _⟩ := toLower_alike c
    cases hc : isCaseIgnorable c with
    | true => simpa [hignorable, hc] using ih
    | false => simp [hignorable, hc, hcased]

/-- Texts that differ in the case of ASCII letters only have the same lowercase form. -/
theorem lowercase_map_toLower (t : Text) : lowercase (t.map Char.toLower) = lowercase t := by
  have hafter (after : Bool) :
      lowercaseAfter after (t.map Char.toLower) = lowercaseAfter after t := by
    induction t generalizing after with
    | nil => rfl
    | cons c t ih =>
      obtain ⟨hchar, hsigma, hcased, hignorable, _⟩ := toLower_alike c
      simp only [List.map_cons, lowercaseAfter, hchar, hsigma, hcased, hignorable,
        startsWithLetter_map_toLower, ih]
  exact hafter false

theorem isWord_map_toLower {w : Text} : IsWord (w.map Char.toLower) ↔ IsWord w := by
  have hblank (c : Char) : isBlank c.toLower = isBlank c := by
    obtain ⟨_, _, _, _, h⟩ := toLower_alike c
    exact h
  simp [IsWord, hblank]

end WordArithmetic.Text
