import WordArithmetic.Proofs.NumberPhrases

namespace WordArithmetic

namespace English

def smallWords : List Text := [
  "zero".toList, "one".toList, "two".toList, "three".toList, "four".toList, "five".toList,
  "six".toList, "seven".toList, "eight".toList, "nine".toList, "ten".toList, "eleven".toList,
  "twelve".toList, "thirteen".toList, "fourteen".toList, "fifteen".toList, "sixteen".toList,
  "seventeen".toList, "eighteen".toList, "nineteen".toList]

def decadeWords : List Text := [
  "twenty".toList, "thirty".toList, "forty".toList, "fifty".toList, "sixty".toList,
  "seventy".toList, "eighty".toList, "ninety".toList]

def hundred : Text := "hundred".toList

def scaleWords : List (Text × Nat) := [
  ("billion".toList, 1000000000), ("million".toList, 1000000), ("thousand".toList, 1000)]

def small (n : Nat) : Text :=
  smallWords.getD n []

def decade (tens : Nat) : Text :=
  decadeWords.getD (tens - 2) []

/-- A decade and its unit are one word with a hyphen, or two words. -/
def belowHundred (hyphenated : Bool) (n : Nat) : List Text :=
  if n < 20 then [small n]
  else if n % 10 = 0 then [decade (n / 10)]
  else if hyphenated then [decade (n / 10) ++ '-' :: small (n % 10)]
  else [decade (n / 10), small (n % 10)]

def belowThousand (hyphenated : Bool) (n : Nat) : List Text :=
  (if n / 100 = 0 then [] else [small (n / 100), hundred]) ++
    if n % 100 = 0 then [] else belowHundred hyphenated (n % 100)

/-- A group of three digits with the words behind it. A group of zeros is left out. -/
def group (hyphenated : Bool) (n : Nat) (scale : List Text) : List Text :=
  if n = 0 then [] else belowThousand hyphenated n ++ scale

/-- The standard spelling of a number below a trillion. Each group of digits has its own choice of
hyphens. -/
def spelling (hyphenated : Nat → Bool) (n : Nat) : List Text :=
  if n = 0 then [small 0]
  else
    scaleWords.flatMap (fun (word, factor) =>
      group (hyphenated factor) (n / factor % 1000) [word]) ++ group (hyphenated 1) (n % 1000) []

end English

namespace Numeral

def Count.readAll (c : Count) (ws : List Text) : Count :=
  (ws.flatMap phraseWords).foldl Count.read c

@[simp]
theorem Count.readAll_nil (c : Count) : c.readAll [] = c := rfl

@[simp]
theorem Count.readAll_append (c : Count) (ws vs : List Text) :
    c.readAll (ws ++ vs) = (c.readAll ws).readAll vs := by
  simp [readAll, List.foldl_append]

theorem Count.readAll_cons (c : Count) (w : Text) (ws : List Text) :
    c.readAll (w :: ws) = (c.readAll [w]).readAll ws :=
  c.readAll_append [w] ws

/-- A number word is read as what it means. -/
theorem Count.readAll_singleton {w : Text} {n : NumberWord} (hn : NumberWord.ofText? w = some n)
    (c : Count) : c.readAll [w] = c.extend n := by
  have hw := phraseWords_of_isNumberWord (isNumberWord_of_ofText? hn)
  simp [readAll, hw, Count.read, hn]

end Numeral

namespace English
open Numeral

theorem ofText?_small {n : Nat} (hn : n < 20) :
    NumberWord.ofText? (small n) = some (.amount n) := by
  have hall : ∀ n < 20, NumberWord.ofText? (small n) = some (.amount n) := by decide
  exact hall n hn

theorem ofText?_decade {tens : Nat} (hl : 2 ≤ tens) (hu : tens < 10) :
    NumberWord.ofText? (decade tens) = some (.amount (10 * tens)) := by
  have hall : ∀ tens < 10, 2 ≤ tens →
      NumberWord.ofText? (decade tens) = some (.amount (10 * tens)) := by
    decide
  exact hall tens hu hl

theorem ofText?_hundred : NumberWord.ofText? hundred = some (.scale 100) := by
  decide

theorem ofText?_scale {entry : Text × Nat} (hm : entry ∈ scaleWords) :
    NumberWord.ofText? entry.1 = some (.scale entry.2) := by
  have hall : ∀ entry ∈ scaleWords, NumberWord.ofText? entry.1 = some (.scale entry.2) := by
    decide
  exact hall entry hm

theorem readAll_small {n : Nat} (hn : n < 20) (c : Count) :
    c.readAll [small n] = ⟨c.total, c.current + n⟩ :=
  c.readAll_singleton (ofText?_small hn)

theorem readAll_decade {tens : Nat} (hl : 2 ≤ tens) (hu : tens < 10) (c : Count) :
    c.readAll [decade tens] = ⟨c.total, c.current + 10 * tens⟩ :=
  c.readAll_singleton (ofText?_decade hl hu)

theorem readAll_hundred (c : Count) :
    c.readAll [hundred] = ⟨c.total, (if c.current = 0 then 1 else c.current) * 100⟩ :=
  c.readAll_singleton ofText?_hundred

theorem readAll_scale {entry : Text × Nat} (hm : entry ∈ scaleWords) (c : Count) :
    c.readAll [entry.1] =
      ⟨c.total + (if c.current = 0 then 1 else c.current) * entry.2, 0⟩ := by
  have hlarge : ∀ entry ∈ scaleWords, ¬ entry.2 ≤ 100 := by decide
  rw [c.readAll_singleton (ofText?_scale hm), Count.extend, if_neg (hlarge entry hm)]

/-- A hyphenated word is read as its two parts are. -/
theorem readAll_hyphenated (v w : Text) (c : Count) :
    c.readAll [v ++ '-' :: w] = c.readAll [v, w] := by
  simp [Count.readAll, phraseWords_append v w (.inr rfl)]

theorem readAll_belowHundred (hyphenated : Bool) {n : Nat} (hn : n < 100) (c : Count) :
    c.readAll (belowHundred hyphenated n) = ⟨c.total, c.current + n⟩ := by
  unfold belowHundred
  split
  · rename_i hsmall
    exact readAll_small hsmall c
  · rename_i hlarge
    have htens : 2 ≤ n / 10 ∧ n / 10 < 10 := by omega
    have hsum : c.current + 10 * (n / 10) + n % 10 = c.current + n := by omega
    have hpair : c.readAll [decade (n / 10), small (n % 10)] = ⟨c.total, c.current + n⟩ := by
      rw [Count.readAll_cons, readAll_decade htens.1 htens.2, readAll_small (by omega), hsum]
    split
    · rename_i hround
      rw [readAll_decade htens.1 htens.2, ← hsum, hround, Nat.add_zero]
    · rename_i hunit
      split
      · rw [readAll_hyphenated, hpair]
      · exact hpair

/-- Hundred multiplies within the open group, and what is below it is added. -/
theorem readAll_belowThousand (hyphenated : Bool) {n : Nat} (hn : n < 1000) (total : Nat) :
    (Count.mk total 0).readAll (belowThousand hyphenated n) = ⟨total, n⟩ := by
  have hhundreds : (Count.mk total 0).readAll
      (if n / 100 = 0 then [] else [small (n / 100), hundred]) = ⟨total, n / 100 * 100⟩ := by
    split
    · rename_i hzero
      simp [hzero]
    · rename_i hsome
      rw [Count.readAll_cons, readAll_small (by omega), readAll_hundred]
      simp [hsome]
  rw [belowThousand, Count.readAll_append, hhundreds]
  split
  · simp only [Count.readAll_nil, Count.mk.injEq, true_and]
    omega
  · rw [readAll_belowHundred hyphenated (by omega)]
    simp only [Count.mk.injEq, true_and]
    omega

/-- A scale word closes its group, and a group of zeros adds nothing. -/
theorem readAll_group (hyphenated : Bool) {n : Nat} (hn : n < 1000) {entry : Text × Nat}
    (hm : entry ∈ scaleWords) (total : Nat) :
    (Count.mk total 0).readAll (group hyphenated n [entry.1]) = ⟨total + n * entry.2, 0⟩ := by
  unfold group
  split
  · rename_i hzero
    simp [hzero]
  · rename_i hsome
    rw [Count.readAll_append, readAll_belowThousand hyphenated hn, readAll_scale hm]
    simp [hsome]

theorem readAll_units (hyphenated : Bool) {n : Nat} (hn : n < 1000) (total : Nat) :
    (Count.mk total 0).readAll (group hyphenated n []) = ⟨total, n⟩ := by
  unfold group
  split
  · rename_i hzero
    simp [hzero]
  · rw [Count.readAll_append, readAll_belowThousand hyphenated hn, Count.readAll_nil]

/-- The spelling of a number is read as that number. -/
theorem exactOf_spelling (hyphenated : Nat → Bool) {n : Nat} (hn : n ≤ 999999999999) :
    exactOf ((spelling hyphenated n).flatMap phraseWords) = n := by
  change ((Count.mk 0 0).readAll (spelling hyphenated n)).value = n
  unfold spelling
  split
  · rename_i hzero
    rw [readAll_small (by omega), hzero]
    rfl
  · have hbelow (m : Nat) : m % 1000 < 1000 := Nat.mod_lt m (by decide)
    have hbillion : ("billion".toList, 1000000000) ∈ scaleWords := by simp [scaleWords]
    have hmillion : ("million".toList, 1000000) ∈ scaleWords := by simp [scaleWords]
    have hthousand : ("thousand".toList, 1000) ∈ scaleWords := by simp [scaleWords]
    simp only [scaleWords, List.flatMap_cons, List.flatMap_nil, List.append_nil,
      Count.readAll_append]
    rw [readAll_group _ (hbelow _) hbillion, readAll_group _ (hbelow _) hmillion,
      readAll_group _ (hbelow _) hthousand, readAll_units _ (hbelow n), Count.value]
    dsimp only
    omega

example : spelling (fun _ => true) 1000342 =
    ["one".toList, "million".toList, "three".toList, "hundred".toList, "forty-two".toList] := by
  decide

theorem parts_ne_nil (hyphenated : Nat → Bool) {n : Nat} (hn : n ≤ 999999999999) :
    (spelling hyphenated n).flatMap phraseWords ≠ [] := by
  intro he
  have hexact := exactOf_spelling hyphenated hn
  rw [he] at hexact
  have hzero : spelling hyphenated n = [small 0] := if_pos hexact.symm
  have hsmall := isNumberWord_of_ofText? (ofText?_small (by decide : 0 < 20))
  simp [hzero, phraseWords_of_isNumberWord hsmall] at he

theorem isPlain_belowHundred (hyphenated : Bool) {n : Nat} (hn : n < 100) :
    ∀ w ∈ belowHundred hyphenated n, IsPlain w := by
  intro w hw
  unfold belowHundred at hw
  split at hw
  · rename_i hsmall
    rw [List.mem_singleton] at hw
    exact hw ▸ isPlain_of_ofText? (ofText?_small hsmall)
  · rename_i hlarge
    have hdecade : IsPlain (decade (n / 10)) :=
      isPlain_of_ofText? (ofText?_decade (by omega) (by omega))
    have hunit : IsPlain (small (n % 10)) := isPlain_of_ofText? (ofText?_small (by omega))
    split at hw
    · rw [List.mem_singleton] at hw
      exact hw ▸ hdecade
    · split at hw
      · rw [List.mem_singleton] at hw
        exact hw ▸ hdecade.hyphenated hunit
      · simp only [List.mem_cons, List.not_mem_nil, or_false] at hw
        rcases hw with rfl | rfl
        · exact hdecade
        · exact hunit

theorem isPlain_belowThousand (hyphenated : Bool) {n : Nat} (hn : n < 1000) :
    ∀ w ∈ belowThousand hyphenated n, IsPlain w := by
  intro w hw
  rcases List.mem_append.mp hw with hw | hw
  · split at hw
    · simp at hw
    · simp only [List.mem_cons, List.not_mem_nil, or_false] at hw
      rcases hw with rfl | rfl
      · exact isPlain_of_ofText? (ofText?_small (by omega))
      · exact isPlain_of_ofText? ofText?_hundred
  · split at hw
    · simp at hw
    · exact isPlain_belowHundred hyphenated (by omega) w hw

theorem isPlain_group (hyphenated : Bool) {n : Nat} (hn : n < 1000) {scale : List Text}
    (hscale : ∀ w ∈ scale, IsPlain w) : ∀ w ∈ group hyphenated n scale, IsPlain w := by
  intro w hw
  unfold group at hw
  split at hw
  · simp at hw
  · rcases List.mem_append.mp hw with hw | hw
    · exact isPlain_belowThousand hyphenated hn w hw
    · exact hscale w hw

/-- The words of a spelling are words that number phrases are made of. -/
theorem isPlain_spelling (hyphenated : Nat → Bool) (n : Nat) :
    ∀ w ∈ spelling hyphenated n, IsPlain w := by
  intro w hw
  unfold spelling at hw
  split at hw
  · rw [List.mem_singleton] at hw
    exact hw ▸ isPlain_of_ofText? (ofText?_small (by decide))
  · rcases List.mem_append.mp hw with hw | hw
    · obtain ⟨entry, hm, hw⟩ := List.mem_flatMap.mp hw
      have hscale : ∀ v ∈ [entry.1], IsPlain v := by
        simpa using isPlain_of_ofText? (ofText?_scale hm)
      exact isPlain_group _ (Nat.mod_lt _ (by decide)) hscale w hw
    · exact isPlain_group _ (Nat.mod_lt _ (by decide)) (by simp) w hw

end English

end WordArithmetic
