import WordArithmetic.Numeral.Reading
import WordArithmetic.Proofs.Values

namespace WordArithmetic

theorem NumberWord.scale_pos {word : Text} {factor : Nat}
    (h : ofText? word = some (.scale factor)) : 0 < factor := by
  unfold ofText? at h
  split at h
  · simp at h
  · split at h
    · simp at h
    · obtain ⟨k, hk, he⟩ := Option.map_eq_some_iff.mp h
      obtain ⟨before, after, hs, _⟩ := List.lookup_eq_some_iff.mp hk
      have hpos : ∀ entry ∈ scales, 0 < entry.2 := by decide
      have hm : (word, k) ∈ scales := by simp [hs]
      cases he
      exact hpos _ hm

namespace Numeral

/-- The closed groups of a number phrase and its open group, counted without bound. -/
structure Count where
  total : Nat
  current : Nat

namespace Count

def value (c : Count) : Nat :=
  c.total + c.current

def extend (c : Count) : NumberWord → Count
  | .amount n => ⟨c.total, c.current + n⟩
  | .scale factor =>
    let group := (if c.current = 0 then 1 else c.current) * factor
    if factor ≤ 100 then ⟨c.total, group⟩ else ⟨c.total + group, 0⟩

def read (c : Count) (word : Text) : Count :=
  match NumberWord.ofText? word with
  | none => c
  | some n => c.extend n

/-- No word makes the count smaller, since an open group is multiplied by one at least. -/
theorem value_le_read (c : Count) (word : Text) : c.value ≤ (c.read word).value := by
  unfold read
  split
  · exact Nat.le_refl _
  · rename_i n hn
    cases n with
    | amount n => simp only [extend, value]; omega
    | scale factor =>
      have hpos := NumberWord.scale_pos hn
      have hgroup : c.current ≤ (if c.current = 0 then 1 else c.current) * factor := by
        split
        · omega
        · exact Nat.le_mul_of_pos_right _ hpos
      simp only [extend, value]
      split <;> dsimp only <;> omega

theorem value_le_foldl (c : Count) (words : List Text) :
    c.value ≤ (words.foldl read c).value := by
  induction words generalizing c with
  | nil => exact Nat.le_refl _
  | cons word words ih => exact Nat.le_trans (c.value_le_read word) (ih (c.read word))

theorem foldl_filter (c : Count) (words : List Text) :
    (words.filter isNumberWord).foldl read c = words.foldl read c := by
  induction words generalizing c with
  | nil => rfl
  | cons word words ih =>
    cases hw : NumberWord.ofText? word with
    | none =>
      have hn : ¬ isNumberWord word = true := by simp [isNumberWord, hw]
      rw [List.filter_cons_of_neg hn, List.foldl_cons, ih]
      simp [read, hw]
    | some n =>
      have hn : isNumberWord word = true := by simp [isNumberWord, hw]
      rw [List.filter_cons_of_pos hn, List.foldl_cons, List.foldl_cons, ih]

end Count

def exactOf (words : List Text) : Nat :=
  (words.foldl Count.read ⟨0, 0⟩).value

def recognized (phrase : Text) : List Text :=
  (phraseWords phrase).filter isNumberWord

/-- The value of a phrase over the unbounded naturals. -/
def exactValue (phrase : Text) : Nat :=
  exactOf (phraseWords phrase)

theorem exactOf_recognized (phrase : Text) : exactOf (recognized phrase) = exactValue phrase := by
  rw [exactOf, recognized, Count.foldl_filter]
  rfl

structure Tally.Matches (t : Tally) (c : Count) : Prop where
  total : t.total.toInt = c.total
  current : t.current.toInt = c.current

theorem Tally.Matches.start : Tally.Matches .start ⟨0, 0⟩ :=
  ⟨rfl, rfl⟩

/-- The group that a scale word leaves, in the tally and in the count. -/
theorem Tally.Matches.group {t : Tally} {c : Count} (h : t.Matches c) :
    (if t.current = .zero then Value.one else t.current).toInt =
      (if c.current = 0 then 1 else c.current : Nat) := by
  have hzero : t.current = .zero ↔ c.current = 0 := by
    rw [Value.ext_iff, h.current]
    exact Int.natCast_eq_zero
  by_cases hc : c.current = 0
  · rw [if_pos (hzero.mpr hc), if_pos hc]
    rfl
  · rw [if_neg (fun he => hc (hzero.mp he)), if_neg hc, h.current]

/-- Adding an amount gives the tally of the count, unless the count outgrows the range. -/
theorem Tally.Matches.amount {t : Tally} {c : Count} (h : t.Matches c) (n : Nat) :
    (∃ t', t.extend? (.amount n) = some t' ∧ t'.Matches (c.extend (.amount n))) ∨
      t.extend? (.amount n) = none ∧ 0x7FFFFFFFFFFFFFFF < (c.extend (.amount n)).value := by
  simp only [Count.extend, Count.value]
  cases hamount : Value.ofInt? n with
  | none =>
    refine .inr ⟨by simp [extend?, hamount], ?_⟩
    rw [Value.ofInt?_eq_none_iff, Value.InRange] at hamount
    omega
  | some amount =>
    have ha := Value.ofInt?_eq_some_iff.mp hamount
    cases hgroup : t.current.add? amount with
    | none =>
      refine .inr ⟨by simp [extend?, hamount, hgroup], ?_⟩
      rw [Value.add?, Value.ofInt?_eq_none_iff, Value.InRange, h.current, ha] at hgroup
      omega
    | some group =>
      refine .inl ⟨⟨t.total, group⟩, by simp [extend?, hamount, hgroup], h.total, ?_⟩
      rw [Value.add?, Value.ofInt?_eq_some_iff, h.current, ha] at hgroup
      simp only [hgroup, Int.natCast_add]

/-- Multiplying the open group and adding it to the total, each checked by itself, fail only if
the count outgrows the range: what it holds is never less than the group or the factor. -/
theorem Tally.Matches.scale {t : Tally} {c : Count} (h : t.Matches c) {factor : Nat}
    (hpos : 0 < factor) :
    (∃ t', t.extend? (.scale factor) = some t' ∧ t'.Matches (c.extend (.scale factor))) ∨
      t.extend? (.scale factor) = none ∧
        0x7FFFFFFFFFFFFFFF < (c.extend (.scale factor)).value := by
  have hbase := h.group
  simp only [Count.extend, Count.value]
  generalize hm : (if c.current = 0 then 1 else c.current) = base at hbase ⊢
  have hone : 0 < base := by split at hm <;> omega
  have hfactor : factor ≤ base * factor := Nat.le_mul_of_pos_left factor hone
  cases hmult : Value.ofInt? factor with
  | none =>
    refine .inr ⟨by simp [extend?, hmult], ?_⟩
    rw [Value.ofInt?_eq_none_iff, Value.InRange] at hmult
    split <;> dsimp only <;> omega
  | some multiplier =>
    have hv := Value.ofInt?_eq_some_iff.mp hmult
    cases hgroup : (if t.current = .zero then .one else t.current : Value).multiply?
        multiplier with
    | none =>
      refine .inr ⟨by simp [extend?, hmult, hgroup], ?_⟩
      rw [Value.multiply?, Value.ofInt?_eq_none_iff, Value.InRange, hbase, hv,
        ← Int.natCast_mul] at hgroup
      split <;> dsimp only <;> omega
    | some group =>
      have hg := hgroup
      rw [Value.multiply?, Value.ofInt?_eq_some_iff, hbase, hv, ← Int.natCast_mul] at hg
      by_cases hnest : factor ≤ 100
      · rw [if_pos hnest]
        exact .inl ⟨⟨t.total, group⟩, by simp [extend?, hmult, hgroup, hnest], h.total, hg⟩
      · rw [if_neg hnest]
        cases htotal : t.total.add? group with
        | none =>
          refine .inr ⟨by simp [extend?, hmult, hgroup, hnest, htotal], ?_⟩
          rw [Value.add?, Value.ofInt?_eq_none_iff, Value.InRange, h.total, hg] at htotal
          dsimp only
          omega
        | some total =>
          have ht := htotal
          rw [Value.add?, Value.ofInt?_eq_some_iff, h.total, hg] at ht
          exact .inl ⟨⟨total, .zero⟩, by simp [extend?, hmult, hgroup, hnest, htotal],
            by simp only [ht, Int.natCast_add], rfl⟩

/-- A tally that cannot be extended has outgrown the range, and not in an intermediate result
only: the count is beyond the greatest value too. -/
theorem Tally.Matches.extend {t : Tally} {c : Count} (h : t.Matches c) {n : NumberWord}
    (hn : ∀ factor, n = .scale factor → 0 < factor) :
    (∃ t', t.extend? n = some t' ∧ t'.Matches (c.extend n)) ∨
      t.extend? n = none ∧ 0x7FFFFFFFFFFFFFFF < (c.extend n).value := by
  cases n with
  | amount n => exact h.amount n
  | scale factor => exact h.scale (hn factor rfl)

/-- The scan gives the exact value if that fits, and nothing only if it does not. -/
theorem Tally.Matches.readWords {t : Tally} {c : Count} (h : t.Matches c) (words : List Text) :
    (readWords t words).value = Value.ofInt? ((words.foldl Count.read c).value : Int) := by
  induction words generalizing t c with
  | nil =>
    simp only [Numeral.readWords, Value.add?, h.total, h.current, List.foldl_nil, Count.value,
      Int.natCast_add]
  | cons word words ih =>
    rw [List.foldl_cons]
    cases hw : NumberWord.ofText? word with
    | none =>
      have hsame : c.read word = c := by simp [Count.read, hw]
      rw [hsame]
      simpa only [Numeral.readWords, hw] using ih h
    | some n =>
      have hnext : c.read word = c.extend n := by simp [Count.read, hw]
      have hn : ∀ factor, n = .scale factor → 0 < factor := by
        rintro factor rfl
        exact NumberWord.scale_pos hw
      rcases h.extend hn with ⟨t', he, h'⟩ | ⟨he, hover⟩
      · simpa only [Numeral.readWords, hw, he, hnext] using ih h'
      · have hle := (c.extend n).value_le_foldl words
        have hnone : Value.ofInt? ((words.foldl Count.read (c.extend n)).value : Int) = none := by
          rw [Value.ofInt?_eq_none_iff, Value.InRange]
          omega
        simp only [Numeral.readWords, hw, he, hnext, hnone]

/-- A lone numeral that is read at once is read as the scan would read it. -/
theorem read_eq_readWords (phrase : Text) :
    read phrase = readWords .start (phraseWords phrase) := by
  unfold read
  split
  · rename_i word hone
    split
    · rename_i hnumeral
      have hw : NumberWord.ofText? word = some (.amount (Nat.ofDigitChars 10 word 0)) := by
        simp [NumberWord.ofText?, hnumeral]
      cases hv : Value.ofInt? (Nat.ofDigitChars 10 word 0 : Int) with
      | none => simp [hone, readWords, hw, Tally.extend?, hv]
      | some v =>
        have hadd : Value.zero.add? v = some v := by
          rw [Value.add?, Value.ofInt?_eq_some_iff]
          simp [Value.zero]
        simp [hone, readWords, hw, Tally.extend?, Tally.start, hv, hadd]
    · rw [hone]
  · rfl

theorem read_value (phrase : Text) : (read phrase).value = Value.ofInt? (exactValue phrase) := by
  rw [read_eq_readWords]
  exact Tally.Matches.start.readWords _

/-- Reading a phrase is exact: it fails only if the value of its recognized words is beyond the
range, and then the phrase stands for the greatest value. -/
theorem reading_is_exact (phrase : Text) :
    (read phrase).value.map Value.toInt =
        (if exactOf (recognized phrase) ≤ 0x7FFFFFFFFFFFFFFF
          then some (exactOf (recognized phrase) : Int) else none) ∧
      (valueOf phrase).toInt = min (exactOf (recognized phrase)) 0x7FFFFFFFFFFFFFFF ∧
      read phrase = readWords .start (phraseWords phrase) := by
  have hvalue := read_value phrase
  rw [exactOf_recognized]
  refine ⟨by rw [hvalue, Value.map_ofInt?_natCast], ?_, read_eq_readWords phrase⟩
  unfold valueOf
  cases hv : (read phrase).value with
  | none =>
    rw [hvalue, Value.ofInt?_eq_none_iff, Value.InRange] at hv
    simp only [Option.getD_none, Value.greatest]
    omega
  | some v =>
    rw [hvalue, Value.ofInt?_eq_some_iff] at hv
    have := v.le_greatest
    simp only [Option.getD_some, hv]
    omega

end Numeral

end WordArithmetic
