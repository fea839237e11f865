import WordArithmetic.Proofs.ExactNumerals
import WordArithmetic.Proofs.PhraseWords

namespace WordArithmetic

/-- What is counted fits if something no smaller does. -/
theorem Value.ofInt?_of_le {m n : Nat} (hle : m ≤ n) {w : Value} (h : ofInt? n = some w) :
    ∃ v, ofInt? m = some v ∧ 0 ≤ v.toInt ∧ v.toInt ≤ w.toInt := by
  rw [ofInt?_eq_some_iff] at h
  have hbound := w.le_greatest
  have hfits : InRange m := by
    constructor <;> omega
  refine ⟨⟨m, hfits.1, hfits.2⟩, ofInt?_eq_some_iff.mpr rfl, Int.natCast_nonneg m, ?_⟩
  rw [h]
  exact Int.ofNat_le.mpr hle

namespace Numeral

/-- The words behind a phrase are read from what it counts up to, and no word makes that smaller. -/
theorem exactValue_le_append (x y : Text) {gap : Text} (hgap : Text.IsGap gap) :
    exactValue x ≤ exactValue (x ++ gap ++ y) := by
  rw [exactValue, exactValue, exactOf, exactOf, phraseWords_append_gap x y hgap, List.foldl_append]
  exact Count.value_le_foldl _ _

/-- More words behind a phrase never make its number smaller, and never make it fit again once it
has outgrown the range. -/
theorem longer_phrases_are_no_smaller (x y : Text) {gap : Text} (hgap : Text.IsGap gap) :
    (∀ w, (read (x ++ gap ++ y)).value = some w →
      ∃ v, (read x).value = some v ∧ 0 ≤ v.toInt ∧ v.toInt ≤ w.toInt) ∧
    ((read x).value = none → (read (x ++ gap ++ y)).value = none) ∧
    (valueOf x).toInt ≤ (valueOf (x ++ gap ++ y)).toInt := by
  have hle := exactValue_le_append x y hgap
  have hfits (w : Value) (hw : (read (x ++ gap ++ y)).value = some w) :
      ∃ v, (read x).value = some v ∧ 0 ≤ v.toInt ∧ v.toInt ≤ w.toInt := by
    rw [read_value] at hw ⊢
    exact Value.ofInt?_of_le hle hw
  refine ⟨hfits, ?_, ?_⟩
  · intro hx
    cases hw : (read (x ++ gap ++ y)).value with
    | none => rfl
    | some w =>
      obtain ⟨v, hv, _⟩ := hfits w hw
      rw [hx] at hv
      contradiction
  · unfold valueOf
    cases hw : (read (x ++ gap ++ y)).value with
    | none => exact Value.le_greatest _
    | some w =>
      obtain ⟨v, hv, _, hvw⟩ := hfits w hw
      rw [hv]
      exact hvw

/-- A scale word behind "two hundred" multiplies it, and no zero brings a number back into the
range. -/
theorem two_hundred_and_too_much :
    let gap := "\u00a0\n".toList
    let small := "two hundred".toList
    let large := "9223372036854775807 billion".toList
    Text.IsGap gap ∧
      (∃ v w, (read small).value = some v ∧
        (read (small ++ gap ++ "thousand".toList)).value = some w ∧ w.toInt = 200000 ∧
        v.toInt ≤ w.toInt) ∧
      (read large).value = none ∧ (read (large ++ gap ++ "times-Zero".toList)).value = none := by
  intro gap small large
  have hgap : Text.IsGap gap := ⟨by decide, List.all_eq_true.mp (by decide)⟩
  have hthousand : (read (small ++ gap ++ "thousand".toList)).value.map Value.toInt =
      some 200000 := by
    decide
  have hlarge : (read large).value = none := by decide
  obtain ⟨w, hw, hvalue⟩ := Option.map_eq_some_iff.mp hthousand
  obtain ⟨hfits, _⟩ := longer_phrases_are_no_smaller small "thousand".toList hgap
  obtain ⟨v, hv, _, hle⟩ := hfits w hw
  obtain ⟨_, hnone, _⟩ := longer_phrases_are_no_smaller large "times-Zero".toList hgap
  exact ⟨hgap, ⟨v, w, hv, hw, hvalue, hle⟩, hlarge, hnone hlarge⟩

/-- A word put in between can make a number smaller: here it closes the group too early. -/
example : (valueOf "hundred thousand million".toList).toInt = 1100000 ∧
    (valueOf "hundred million".toList).toInt = 100000000 := by
  decide

end Numeral

end WordArithmetic
