import WordArithmetic.Proofs.NumberPhrases
import WordArithmetic.Proofs.Values
import WordArithmetic.Value.Decimal

namespace WordArithmetic.Value

/-- The integer that a literal stands for, in range or not: decimal digits, at least one, and a sign
before them if there is one. -/
inductive IsLiteral : Text → Int → Prop
  | unsigned {digits : Text} : NumberWord.isNumeral digits = true →
    IsLiteral digits (Nat.ofDigitChars 10 digits 0)
  | plus {digits : Text} : NumberWord.isNumeral digits = true →
    IsLiteral ('+' :: digits) (Nat.ofDigitChars 10 digits 0)
  | minus {digits : Text} : NumberWord.isNumeral digits = true →
    IsLiteral ('-' :: digits) (-(Nat.ofDigitChars 10 digits 0))

namespace Sign

def integer (sign : Sign) (magnitude : Nat) : Int :=
  match sign with
  | .plus => magnitude
  | .minus => -magnitude

theorem extend_eq {sign : Sign} {v : Value} {n : Nat} (hv : v.toInt = sign.integer n) (d : Nat) :
    sign.extend v d = ofInt? (sign.integer (10 * n + d)) := by
  cases sign with
  | plus =>
    simp only [integer] at hv
    simp only [extend, integer, hv]
    push_cast
    rfl
  | minus =>
    simp only [integer] at hv
    have heq : 10 * v.toInt - d = -((10 * n + d : Nat) : Int) := by omega
    rw [extend, heq, integer]

/-- A magnitude that does not fit does not come to fit by growing. -/
theorem not_inRange_of_le {sign : Sign} {m n : Nat} (h : ¬ InRange (sign.integer m))
    (hle : m ≤ n) : ¬ InRange (sign.integer n) := by
  cases sign with
  | plus =>
    simp only [integer, InRange] at h ⊢
    omega
  | minus =>
    simp only [integer, InRange] at h ⊢
    omega

end Sign

theorem le_ofDigitChars (digits : Text) (n : Nat) : n ≤ Nat.ofDigitChars 10 digits n := by
  rw [Nat.ofDigitChars_eq_ofDigitChars_zero]
  exact Nat.le_add_right_of_le (Nat.le_mul_of_pos_left n (Nat.pow_pos (by decide)))

/-- Reading digits one by one, with a check at each, is checking the integer they add up to. -/
theorem readDigits_eq_ok_iff {sign : Sign} {v w : Value} {n : Nat}
    (hv : v.toInt = sign.integer n) (digits : Text) :
    readDigits sign v digits = .ok w ↔
      (∀ c ∈ digits, c.isDigit = true) ∧
        w.toInt = sign.integer (Nat.ofDigitChars 10 digits n) := by
  induction digits generalizing v n with
  | nil =>
    have hempty : ∀ c ∈ ([] : Text), c.isDigit = true := by simp
    rw [readDigits, Except.ok.injEq, Value.ext_iff, hv, eq_comm]
    exact (and_iff_right hempty).symm
  | cons c rest ih =>
    rw [readDigits, List.forall_mem_cons]
    cases hc : c.isDigit with
    | false => simp
    | true =>
      rw [if_pos rfl, Sign.extend_eq hv, Nat.ofDigitChars_cons]
      cases hnext : ofInt? (sign.integer (10 * n + (c.toNat - '0'.toNat))) with
      | some longer => simpa using ih (ofInt?_eq_some_iff.mp hnext)
      | none =>
        -- The digits that are left only take the integer further out.
        have hout := Sign.not_inRange_of_le (ofInt?_eq_none_iff.mp hnext) (le_ofDigitChars rest _)
        simp only [reduceCtorEq, false_iff]
        rintro ⟨_, hw⟩
        exact hout (hw ▸ w.inRange)

theorem readDigits_numeral_iff {sign : Sign} {digits : Text} {v : Value} (hne : digits ≠ []) :
    readDigits sign zero digits = .ok v ↔
      NumberWord.isNumeral digits = true ∧
        v.toInt = sign.integer (Nat.ofDigitChars 10 digits 0) := by
  have hzero : zero.toInt = sign.integer 0 := by cases sign <;> rfl
  rw [readDigits_eq_ok_iff hzero, NumberWord.isNumeral_iff]
  simp [hne]

theorem read_plus {digits : Text} (hne : digits ≠ []) :
    read ('+' :: digits) = readDigits .plus zero digits := by
  cases digits with
  | nil => contradiction
  | cons c rest => rfl

theorem read_minus {digits : Text} (hne : digits ≠ []) :
    read ('-' :: digits) = readDigits .minus zero digits := by
  cases digits with
  | nil => contradiction
  | cons c rest => rfl

/-- No digit is a sign. -/
theorem read_unsigned {digits : Text} (h : NumberWord.isNumeral digits = true) :
    read digits = readDigits .plus zero digits := by
  obtain ⟨hne, hall⟩ := NumberWord.isNumeral_iff.mp h
  unfold read
  split
  · contradiction
  · exact absurd (hall '+' (by simp)) (by decide)
  · exact absurd (hall '-' (by simp)) (by decide)
  · exact absurd (hall '+' (by simp)) (by decide)
  · exact absurd (hall '-' (by simp)) (by decide)
  · rfl

/-- The values are read from their literals and from nothing else. -/
theorem read_eq_ok_iff {literal : Text} {v : Value} :
    read literal = .ok v ↔ IsLiteral literal v.toInt := by
  constructor
  · intro h
    unfold read at h
    split at h
    · cases h
    · cases h
    · cases h
    · rename_i digits _ hne
      obtain ⟨hdigits, hv⟩ := (readDigits_numeral_iff (by rintro rfl; exact hne rfl)).mp h
      rw [hv]
      exact .plus hdigits
    · rename_i digits _ hne
      obtain ⟨hdigits, hv⟩ := (readDigits_numeral_iff (by rintro rfl; exact hne rfl)).mp h
      rw [hv]
      exact .minus hdigits
    · rename_i hne _ _ _ _
      obtain ⟨hdigits, hv⟩ := (readDigits_numeral_iff hne).mp h
      rw [hv]
      exact .unsigned hdigits
  · intro h
    generalize hn : v.toInt = n at h
    cases h with
    | unsigned hdigits =>
      have hne := (NumberWord.isNumeral_iff.mp hdigits).1
      rw [read_unsigned hdigits]
      exact (readDigits_numeral_iff hne).mpr ⟨hdigits, hn⟩
    | plus hdigits =>
      have hne := (NumberWord.isNumeral_iff.mp hdigits).1
      rw [read_plus hne]
      exact (readDigits_numeral_iff hne).mpr ⟨hdigits, hn⟩
    | minus hdigits =>
      have hne := (NumberWord.isNumeral_iff.mp hdigits).1
      rw [read_minus hne]
      exact (readDigits_numeral_iff hne).mpr ⟨hdigits, hn⟩

end WordArithmetic.Value
