import WordArithmetic.Value.Basic

namespace WordArithmetic.Value

def InRange (n : Int) : Prop :=
  -0x8000000000000000 ≤ n ∧ n ≤ 0x7FFFFFFFFFFFFFFF

instance (n : Int) : Decidable (InRange n) :=
  inferInstanceAs (Decidable (_ ∧ _))

theorem inRange (v : Value) : InRange v.toInt :=
  ⟨v.least_le, v.le_greatest⟩

theorem ofInt?_eq_some_iff {n : Int} {v : Value} : ofInt? n = some v ↔ v.toInt = n := by
  constructor
  · intro h
    unfold ofInt? at h
    split at h
    · rw [← Option.some.inj h]
    · contradiction
  · rintro rfl
    rw [ofInt?, dif_pos ⟨v.least_le, v.le_greatest⟩]

theorem ofInt?_eq_none_iff {n : Int} : ofInt? n = none ↔ ¬ InRange n := by
  unfold ofInt? InRange
  split
  · rename_i h
    simp [h]
  · rename_i h
    simpa using h

/-- A natural number is a value up to the greatest one. -/
theorem map_ofInt?_natCast (n : Nat) :
    (ofInt? n).map toInt = if n ≤ 0x7FFFFFFFFFFFFFFF then some (n : Int) else none := by
  cases h : ofInt? n with
  | none =>
    rw [ofInt?_eq_none_iff, InRange] at h
    rw [if_neg (by omega), Option.map_none]
  | some v =>
    rw [ofInt?_eq_some_iff] at h
    have := v.le_greatest
    rw [if_pos (by omega), Option.map_some, h]

/-- The quotient of two values fits but for the least value divided by minus one. -/
theorem inRange_tdiv_iff {a b : Int} (ha : InRange a) (hb : b ≠ 0) :
    InRange (a.tdiv b) ↔ ¬ (a = -0x8000000000000000 ∧ b = -1) := by
  constructor
  · rintro hrange ⟨rfl, rfl⟩
    exact absurd hrange (by decide)
  · intro hne
    unfold InRange at ha ⊢
    by_cases hunit : b.natAbs = 1
    · rcases Int.natAbs_eq_iff.mp hunit with rfl | rfl
      · rw [Int.natCast_one, Int.tdiv_one]
        exact ha
      · rw [Int.natCast_one, Int.tdiv_neg, Int.tdiv_one]
        omega
    · -- A divisor of two or more at least halves the magnitude.
      have hquotient : (a.tdiv b).natAbs = a.natAbs / b.natAbs := Int.natAbs_tdiv a b
      have hhalf : a.natAbs / b.natAbs ≤ a.natAbs / 2 :=
        Nat.div_le_div_left (by omega) (by decide)
      omega

end WordArithmetic.Value
