import WordArithmetic.Proofs.ExactNumerals
import WordArithmetic.Proofs.PhraseWords

namespace WordArithmetic

/-- Checking a sum is checking its parts and then the sum: no part is greater than it. -/
theorem Value.map_ofInt?_add (m n : Nat) :
    (ofInt? (m + n : Nat)).map toInt =
      (ofInt? m).bind fun x => (ofInt? n).bind fun y =>
        if x.toInt + y.toInt ≤ 0x7FFFFFFFFFFFFFFF then some (x.toInt + y.toInt) else none := by
  rw [map_ofInt?_natCast]
  cases hx : ofInt? m with
  | none =>
    rw [ofInt?_eq_none_iff, InRange] at hx
    rw [if_neg (by omega), Option.bind_none]
  | some x =>
    rw [ofInt?_eq_some_iff] at hx
    cases hy : ofInt? n with
    | none =>
      rw [ofInt?_eq_none_iff, InRange] at hy
      rw [if_neg (by omega), Option.bind_some, Option.bind_none]
    | some y =>
      rw [ofInt?_eq_some_iff] at hy
      have hle : (m : Int) + n ≤ 0x7FFFFFFFFFFFFFFF ↔ m + n ≤ 0x7FFFFFFFFFFFFFFF := by omega
      simp only [Option.bind_some, hx, hy, hle, Int.natCast_add]

namespace Numeral

namespace Count

def behind (closed : Nat) (c : Count) : Count :=
  ⟨closed + c.total, c.current⟩

theorem value_behind (closed : Nat) (c : Count) : (c.behind closed).value = closed + c.value :=
  Nat.add_assoc closed c.total c.current

/-- No word reads what the closed groups are worth. -/
theorem read_behind (closed : Nat) (c : Count) (word : Text) :
    (c.behind closed).read word = (c.read word).behind closed := by
  unfold read
  cases NumberWord.ofText? word with
  | none => rfl
  | some n =>
    cases n with
    | amount n => rfl
    | scale factor =>
      simp only [extend, behind]
      split
      · rfl
      · exact congrArg (Count.mk · 0) (Nat.add_assoc closed c.total _)

theorem foldl_read_behind (closed : Nat) (c : Count) (words : List Text) :
    words.foldl read (c.behind closed) = (words.foldl read c).behind closed := by
  induction words generalizing c with
  | nil => rfl
  | cons word words ih => rw [List.foldl_cons, List.foldl_cons, read_behind, ih]

end Count

def closingWords : List Text :=
  ["thousand".toList, "million".toList, "billion".toList]

theorem Count.current_read_closing (c : Count) {word : Text} (h : word ∈ closingWords) :
    (c.read word).current = 0 := by
  have hall : ∀ word ∈ closingWords, ∃ factor, 100 < factor ∧
      NumberWord.ofText? word = some (.scale factor) := by
    simp only [closingWords, List.mem_cons, List.not_mem_nil, or_false]
    rintro word (rfl | rfl | rfl)
    · exact ⟨1000, by decide, by decide⟩
    · exact ⟨1000000, by decide, by decide⟩
    · exact ⟨1000000000, by decide, by decide⟩
  obtain ⟨factor, hlarge, hword⟩ := hall word h
  simp only [read, hword, extend, if_neg (Nat.not_le.mpr hlarge)]

/-- The last word of the phrase that means a number closes its group. -/
def EndsClosed (phrase : Text) : Prop :=
  ∃ word ∈ closingWords, (recognized phrase).getLast? = some word

/-- A phrase that ends with a closed group leaves no group open. -/
theorem EndsClosed.count {phrase : Text} (h : EndsClosed phrase) :
    (phraseWords phrase).foldl Count.read ⟨0, 0⟩ = ⟨exactValue phrase, 0⟩ := by
  obtain ⟨word, hclosing, hlast⟩ := h
  obtain ⟨before, hrecognized⟩ := List.getLast?_eq_some_iff.mp hlast
  have hcurrent : ((phraseWords phrase).foldl Count.read ⟨0, 0⟩).current = 0 := by
    rw [← Count.foldl_filter]
    change ((recognized phrase).foldl Count.read ⟨0, 0⟩).current = 0
    rw [hrecognized, List.foldl_append]
    exact Count.current_read_closing _ hclosing
  rw [exactValue, exactOf]
  generalize (phraseWords phrase).foldl Count.read ⟨0, 0⟩ = c at hcurrent ⊢
  obtain ⟨total, current⟩ := c
  cases hcurrent
  rfl

/-- What follows a closed group is counted as if it stood by itself. -/
theorem exactValue_append_gap {x : Text} (hx : EndsClosed x) (y : Text) {gap : Text}
    (hgap : Text.IsGap gap) : exactValue (x ++ gap ++ y) = exactValue x + exactValue y := by
  have hstart : (⟨exactValue x, 0⟩ : Count) = Count.behind (exactValue x) ⟨0, 0⟩ := rfl
  rw [exactValue, exactOf, phraseWords_append_gap x y hgap, List.foldl_append, hx.count, hstart,
    Count.foldl_read_behind, Count.value_behind]
  rfl

/-- Behind a closed group a phrase reads as the checked sum of its two parts, and two phrases that
both end with a closed group may be swapped, whatever outgrows the range on the way. -/
theorem closed_groups_add_up {x : Text} (hx : EndsClosed x) (y : Text) {gap : Text}
    (hgap : Text.IsGap gap) :
    ((read (x ++ gap ++ y)).value.map Value.toInt =
      (read x).value.bind fun v => (read y).value.bind fun w =>
        if v.toInt + w.toInt ≤ 0x7FFFFFFFFFFFFFFF then some (v.toInt + w.toInt) else none) ∧
    (EndsClosed y → ∀ other, Text.IsGap other →
      (read (y ++ other ++ x)).value = (read (x ++ gap ++ y)).value ∧
        valueOf (y ++ other ++ x) = valueOf (x ++ gap ++ y)) := by
  constructor
  · rw [read_value, read_value x, read_value y, exactValue_append_gap hx y hgap,
      Value.map_ofInt?_add]
  · intro hy other hother
    have hsame : (read (y ++ other ++ x)).value = (read (x ++ gap ++ y)).value := by
      rw [read_value, read_value, exactValue_append_gap hy x hother,
        exactValue_append_gap hx y hgap, Nat.add_comm]
    exact ⟨hsame, by rw [valueOf, hsame, valueOf]⟩

/-- Each of two phrases fits and their sum does not, in either order. -/
theorem closed_groups_outgrow_the_range :
    let x := "9223372036 Billion apples".toList
    let y := "a billion".toList
    EndsClosed x ∧ EndsClosed y ∧ Text.IsGap [' '] ∧ Text.IsGap "\t\n".toList ∧
      (read x).value.map Value.toInt = some 9223372036000000000 ∧
      (read y).value.map Value.toInt = some 1000000000 ∧
      (read (x ++ [' '] ++ y)).value = none ∧
      (read (y ++ "\t\n".toList ++ x)).value = none ∧
      valueOf (y ++ "\t\n".toList ++ x) = valueOf (x ++ [' '] ++ y) := by
  intro x y
  have hclosing : "billion".toList ∈ closingWords := by decide
  have hx : EndsClosed x := ⟨_, hclosing, by decide⟩
  have hy : EndsClosed y := ⟨_, hclosing, by decide⟩
  have hgap : Text.IsGap [' '] := ⟨by decide, by simp [Text.isBlank_space]⟩
  have hother : Text.IsGap "\t\n".toList := ⟨by decide, List.all_eq_true.mp (by decide)⟩
  have hvalue : (read x).value.map Value.toInt = some 9223372036000000000 := by decide
  have hvalue' : (read y).value.map Value.toInt = some 1000000000 := by decide
  obtain ⟨v, hv, hv'⟩ := Option.map_eq_some_iff.mp hvalue
  obtain ⟨w, hw, hw'⟩ := Option.map_eq_some_iff.mp hvalue'
  obtain ⟨hsum, hswap⟩ := closed_groups_add_up hx y hgap
  obtain ⟨hsame, hvalueOf⟩ := hswap hy _ hother
  have hnone : (read (x ++ [' '] ++ y)).value = none := by
    rw [hv, hw, Option.bind_some, Option.bind_some, hv', hw'] at hsum
    simpa using hsum
  exact ⟨hx, hy, hgap, hother, hvalue, hvalue', hnone, hsame.trans hnone, hvalueOf⟩

end Numeral

end WordArithmetic
