import Mathlib.Data.List.Basic
import WordArithmetic.Proofs.Literals
import WordArithmetic.Value.Decimal

namespace WordArithmetic.Value

/-- Groups of three, but for the first, which may be shorter and is not empty. -/
structure InThrees (first : Text) (rest : List Text) : Prop where
  pos : 1 ≤ first.length
  le_three : first.length ≤ 3
  full : ∀ group ∈ rest, group.length = 3

/-- The decimal digits of a number, with no zero in front of others. -/
structure IsDecimal (digits : Text) (n : Nat) : Prop where
  numeral : NumberWord.isNumeral digits = true
  value : Nat.ofDigitChars 10 digits 0 = n
  front : digits.head? = some '0' → digits = ['0']

theorem isDecimal_toDigits (n : Nat) : IsDecimal (Nat.toDigits 10 n) n where
  numeral := by
    refine NumberWord.isNumeral_iff.mpr ⟨Nat.toDigits_ne_nil, ?_⟩
    intro c hc
    exact Nat.isDigit_of_mem_toDigits (by decide) (by decide) hc
  value := Nat.ofDigitChars_ten_toDigits
  front := by
    induction n using Nat.strong_induction_on with
    | h n ih =>
      by_cases hn : n < 10
      · rw [Nat.toDigits_of_lt_base hn]
        simp
      · rw [Nat.toDigits_of_base_le (by decide) (Nat.le_of_not_lt hn),
          List.head?_append_of_ne_nil _ Nat.toDigits_ne_nil]
        intro hzero
        have hquotient : n / 10 = 0 := by
          rw [← Nat.ofDigitChars_ten_toDigits (n := n / 10), ih (n / 10) (by omega) hzero]
          rfl
        omega

theorem groupDigits_cons_cons (separator d e : Char) (digits : Text) :
    groupDigits separator (d :: e :: digits) =
      if (e :: digits).length % 3 = 0 then d :: separator :: groupDigits separator (e :: digits)
      else d :: groupDigits separator (e :: digits) := rfl

theorem InThrees.length {first : Text} {rest : List Text} (h : InThrees first rest) :
    (first ++ rest.flatten).length = first.length + 3 * rest.length := by
  have hrest := h.full
  clear h
  induction rest with
  | nil => simp
  | cons group rest ih =>
    obtain ⟨hgroup, hrest⟩ := List.forall_mem_cons.mp hrest
    have hlength := ih hrest
    simp only [List.length_append, List.flatten_cons, List.length_cons] at hlength ⊢
    omega

/-- One more digit in front of a full group begins another. -/
theorem groupDigits_inThrees (separator : Char) {digits : Text} (hne : digits ≠ []) :
    ∃ first rest, groupDigits separator digits = [separator].intercalate (first :: rest) ∧
      InThrees first rest ∧ first ++ rest.flatten = digits := by
  induction digits with
  | nil => contradiction
  | cons d digits ih =>
    cases digits with
    | nil => exact ⟨[d], [], rfl, ⟨by simp, by simp, by simp⟩, rfl⟩
    | cons e digits =>
      obtain ⟨first, rest, hgroups, hthrees, hflatten⟩ := ih (by simp)
      have hlength := hthrees.length
      have hpos := hthrees.pos
      have hle := hthrees.le_three
      rw [hflatten] at hlength
      rw [groupDigits_cons_cons, hgroups]
      split
      · refine ⟨[d], first :: rest, by rw [List.intercalate_cons_cons]; rfl,
          ⟨by simp, by simp, List.forall_mem_cons.mpr ⟨by omega, hthrees.full⟩⟩, ?_⟩
        rw [List.flatten_cons, hflatten]
        rfl
      · refine ⟨d :: first, rest, ?_,
          ⟨by simp, by simp only [List.length_cons]; omega, hthrees.full⟩, ?_⟩
        · cases rest with
          | nil => simp
          | cons group rest => simp [List.intercalate_cons_cons]
        · rw [List.cons_append, hflatten]

theorem filter_groupDigits {separator : Char} {digits : Text} (h : ∀ c ∈ digits, c ≠ separator) :
    (groupDigits separator digits).filter (· ≠ separator) = digits := by
  induction digits with
  | nil => rfl
  | cons d digits ih =>
    obtain ⟨hd, hrest⟩ := List.forall_mem_cons.mp h
    cases digits with
    | nil => simp [groupDigits, hd]
    | cons e digits =>
      rw [groupDigits_cons_cons]
      split <;> simpa [hd] using ih hrest

theorem head?_groupDigits (separator : Char) (digits : Text) :
    (groupDigits separator digits).head? = digits.head? := by
  match digits with
  | [] => rfl
  | [d] => rfl
  | d :: e :: digits =>
    rw [groupDigits_cons_cons]
    split <;> rfl

theorem getLast?_groupDigits (separator : Char) (digits : Text) :
    (groupDigits separator digits).getLast? = digits.getLast? := by
  induction digits with
  | nil => rfl
  | cons d digits ih =>
    cases digits with
    | nil => rfl
    | cons e digits =>
      rw [groupDigits_cons_cons, List.getLast?_cons_cons, ← ih]
      have hne : groupDigits separator (e :: digits) ≠ [] := by
        intro hnil
        have hhead := head?_groupDigits separator (e :: digits)
        simp [hnil] at hhead
      obtain ⟨c, grouped, hgrouped⟩ := List.exists_cons_of_ne_nil hne
      rw [hgrouped]
      split <;> simp

theorem length_groupDigits (separator : Char) (digits : Text) :
    (groupDigits separator digits).length = digits.length + (digits.length - 1) / 3 := by
  induction digits with
  | nil => rfl
  | cons d digits ih =>
    cases digits with
    | nil => simp [groupDigits]
    | cons e digits =>
      rw [groupDigits_cons_cons]
      split
      · rename_i hfull
        simp only [List.length_cons] at hfull ih ⊢
        omega
      · rename_i hfull
        simp only [List.length_cons] at hfull ih ⊢
        omega

/-- The separators stand at places that the number of digits decides, whatever they look like. -/
theorem groupDigits_injective (separator : Char) : Function.Injective (groupDigits separator) := by
  intro digits others h
  have hlength : digits.length = others.length := by
    have hgrouped := congrArg List.length h
    rw [length_groupDigits, length_groupDigits] at hgrouped
    omega
  induction digits generalizing others with
  | nil => exact (List.length_eq_zero_iff.mp hlength.symm).symm
  | cons d digits ih =>
    obtain ⟨o, others, rfl⟩ := List.exists_cons_of_length_eq_add_one hlength.symm
    have htail : digits.length = others.length := Nat.succ.inj hlength
    cases digits with
    | nil =>
      rw [List.length_eq_zero_iff.mp htail.symm] at h ⊢
      exact h
    | cons e digits =>
      obtain ⟨p, others, rfl⟩ := List.exists_cons_of_length_eq_add_one htail.symm
      rw [groupDigits_cons_cons, groupDigits_cons_cons, htail] at h
      split at h
      · obtain ⟨rfl, hrest⟩ := List.cons.inj h
        rw [ih (List.cons.inj hrest).2 htail]
      · obtain ⟨rfl, hrest⟩ := List.cons.inj h
        rw [ih hrest htail]

/-- No digit is a sign. -/
theorem IsDecimal.head?_ne_minus {digits : Text} {n : Nat} (h : IsDecimal digits n) :
    digits.head? ≠ some '-' := by
  intro hminus
  have hdigit := (NumberWord.isNumeral_iff.mp h.numeral).2 '-' (List.mem_of_head? hminus)
  exact absurd hdigit (by decide)

theorem grouped_injective (separator : Char) : Function.Injective (grouped separator) := by
  intro v w h
  have hplain (u : Value) :
      (groupDigits separator (Nat.toDigits 10 u.toInt.natAbs)).head? ≠ some '-' := by
    rw [head?_groupDigits]
    exact (isDecimal_toDigits _).head?_ne_minus
  have hmagnitude {m n : Nat} (h : groupDigits separator (Nat.toDigits 10 m) =
      groupDigits separator (Nat.toDigits 10 n)) : m = n := by
    have hdigits : Nat.toDigits 10 m = Nat.toDigits 10 n := groupDigits_injective separator h
    rw [← Nat.ofDigitChars_ten_toDigits (n := m), hdigits, Nat.ofDigitChars_ten_toDigits]
  rw [grouped, grouped] at h
  rw [Value.ext_iff]
  by_cases hv : v.toInt < 0
  · by_cases hw : w.toInt < 0
    · rw [if_pos hv, if_pos hw] at h
      have := hmagnitude (List.append_cancel_left h)
      omega
    · rw [if_pos hv, if_neg hw] at h
      exact absurd (congrArg List.head? h).symm (hplain w)
  · by_cases hw : w.toInt < 0
    · rw [if_neg hv, if_pos hw] at h
      exact absurd (congrArg List.head? h) (hplain v)
    · rw [if_neg hv, if_neg hw] at h
      have := hmagnitude h
      omega

/-- The plain digits with their sign are the literal of the value. -/
theorem read_text (v : Value) : read v.text = .ok v := by
  have hdecimal := isDecimal_toDigits v.toInt.natAbs
  rw [read_eq_ok_iff, text]
  by_cases hv : v.toInt < 0
  · have hinteger : -(v.toInt.natAbs : Int) = v.toInt := by omega
    have hliteral := IsLiteral.minus hdecimal.numeral
    rw [hdecimal.value, hinteger] at hliteral
    rw [if_pos hv]
    exact hliteral
  · have hinteger : (v.toInt.natAbs : Int) = v.toInt := by omega
    have hliteral := IsLiteral.unsigned hdecimal.numeral
    rw [hdecimal.value, hinteger] at hliteral
    rw [if_neg hv]
    exact hliteral

/-- A sign goes in front of a negative value, and then come the digits of its magnitude in groups of
three with separators between them. A separator that is neither a digit nor a minus sign can be left
out again, which gives the literal of the value; and with any separator no two values look alike. -/
theorem grouped_loses_nothing (separator : Char) (v : Value) :
    (∃ first rest, InThrees first rest ∧ IsDecimal (first ++ rest.flatten) v.toInt.natAbs ∧
      grouped separator v =
        (if v.toInt < 0 then ['-'] else []) ++ [separator].intercalate (first :: rest)) ∧
      (separator.isDigit = false → separator ≠ '-' →
        (grouped separator v).head? ≠ some separator ∧
        (grouped separator v).getLast? ≠ some separator ∧
        (grouped separator v).filter (· ≠ separator) = v.text ∧ read v.text = .ok v) ∧
      ∀ w, grouped separator w = grouped separator v → w = v := by
  have hdecimal := isDecimal_toDigits v.toInt.natAbs
  obtain ⟨hne, hdigits⟩ := NumberWord.isNumeral_iff.mp hdecimal.numeral
  refine ⟨?_, ?_, fun w h => grouped_injective separator h⟩
  · obtain ⟨first, rest, hgroups, hthrees, hflatten⟩ := groupDigits_inThrees separator hne
    exact ⟨first, rest, hthrees, hflatten ▸ hdecimal, by rw [grouped, hgroups]⟩
  · intro hseparator hminus
    have hother : ∀ c ∈ Nat.toDigits 10 v.toInt.natAbs, c ≠ separator := by
      intro c hc heq
      rw [← heq, hdigits c hc] at hseparator
      contradiction
    refine ⟨?_, ?_, ?_, read_text v⟩
    · rw [grouped]
      split
      · simpa using Ne.symm hminus
      · rw [List.nil_append, head?_groupDigits]
        intro hhead
        exact hother separator (List.mem_of_head? hhead) rfl
    · rw [grouped, List.getLast?_append, getLast?_groupDigits, List.getLast?_eq_some_getLast hne,
        Option.some_or]
      intro hlast
      exact hother separator (Option.some.inj hlast ▸ List.getLast_mem hne) rfl
    · rw [grouped, text, List.filter_append, filter_groupDigits hother]
      split <;> simp [Ne.symm hminus]

/-- The least value has a magnitude that is no value, and as many digits as groups of three hold and
one more. -/
theorem grouped_least :
    let least : Value := ⟨-0x8000000000000000, by decide, by decide⟩
    grouped ',' least = "-9,223,372,036,854,775,808".toList ∧
      (grouped ',' least).filter (· ≠ ',') = least.text ∧ read least.text = .ok least := by
  intro least
  obtain ⟨_, hseparated, _⟩ := grouped_loses_nothing ',' least
  exact ⟨by decide +kernel, (hseparated (by decide) (by decide)).2.2⟩

end WordArithmetic.Value
