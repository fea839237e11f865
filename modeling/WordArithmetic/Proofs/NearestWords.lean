import Mathlib.Order.Bounds.Basic
import WordArithmetic.Correction
import WordArithmetic.Proofs.EditScripts

namespace WordArithmetic.Correction

/-- The entry costs less than those before it and no more than those behind it. -/
def IsFirstLeast (cost : Text → Nat) (entries : List Text) (entry : Text) : Prop :=
  ∃ before after, entries = before ++ entry :: after ∧
    (∀ other ∈ before, cost entry < cost other) ∧ ∀ other ∈ after, cost entry ≤ cost other

/-- So many edits are the fewest from the word to an entry of the vocabulary, and this entry is the
first that they lead to. -/
structure IsFirstNearest (vocabulary : List Text) (word entry : Text) (edits : Nat) : Prop where
  fewest : IsLeast {n | Edits n word entry} edits
  first : ∃ before after, vocabulary = before ++ entry :: after ∧
    (∀ other ∈ before, ∀ n, Edits n word other → edits < n) ∧
    ∀ other ∈ after, ∀ n, Edits n word other → edits ≤ n

def nearestByDistance (vocabulary : List Text) (word : Text) : Option Text :=
  let word := Text.lowercase word
  if word.length < 3 || vocabulary.contains word then none
  else firstLeast (distance word) (vocabulary.filter (distance word · ≤ tolerance word))

variable {cost : Text → Nat} {entries vocabulary : List Text} {entry word : Text}

theorem firstLeast_eq_none_iff : firstLeast cost entries = none ↔ entries = [] := by
  cases entries with
  | nil => simp [firstLeast]
  | cons other rest =>
    rw [firstLeast]
    split
    · simp
    · split <;> simp

theorem IsFirstLeast.mem (h : IsFirstLeast cost entries entry) : entry ∈ entries := by
  obtain ⟨before, after, rfl, _⟩ := h
  simp

theorem IsFirstLeast.cost_le (h : IsFirstLeast cost entries entry) :
    ∀ other ∈ entries, cost entry ≤ cost other := by
  obtain ⟨before, after, rfl, hbefore, hafter⟩ := h
  intro other hm
  rcases List.mem_append.mp hm with hm | hm
  · exact Nat.le_of_lt (hbefore other hm)
  · rcases List.mem_cons.mp hm with rfl | hm
    · exact le_rfl
    · exact hafter other hm

theorem isFirstLeast_cons_iff {other : Text} : IsFirstLeast cost (other :: entries) entry ↔
    (other = entry ∧ ∀ later ∈ entries, cost entry ≤ cost later) ∨
      (cost entry < cost other ∧ IsFirstLeast cost entries entry) := by
  constructor
  · intro h
    obtain ⟨before, after, hsplit, hbefore, hafter⟩ := h
    cases before with
    | nil =>
      obtain ⟨rfl, rfl⟩ := List.cons.inj hsplit
      exact .inl ⟨rfl, hafter⟩
    | cons first before =>
      obtain ⟨rfl, rfl⟩ := List.cons.inj hsplit
      obtain ⟨hfirst, hbefore⟩ := List.forall_mem_cons.mp hbefore
      exact .inr ⟨hfirst, before, after, rfl, hbefore, hafter⟩
  · intro h
    rcases h with ⟨rfl, hafter⟩ | ⟨hfirst, before, after, rfl, hbefore, hafter⟩
    · exact ⟨[], entries, rfl, by simp, hafter⟩
    · exact ⟨other :: before, after, rfl, List.forall_mem_cons.mpr ⟨hfirst, hbefore⟩, hafter⟩

theorem firstLeast_eq_some_iff :
    firstLeast cost entries = some entry ↔ IsFirstLeast cost entries entry := by
  induction entries generalizing entry with
  | nil => simp [firstLeast, IsFirstLeast]
  | cons other rest ih =>
    rw [isFirstLeast_cons_iff, firstLeast]
    cases hrest : firstLeast cost rest with
    | none =>
      rw [firstLeast_eq_none_iff] at hrest
      simp [hrest, IsFirstLeast]
    | some best =>
      have hbest : IsFirstLeast cost rest best := ih.mp hrest
      rw [← ih, hrest, Option.some.injEq]
      dsimp only
      split
      · rename_i hle
        rw [Option.some.injEq]
        constructor
        · intro h
          subst h
          exact .inl ⟨rfl, fun later hm => hle.trans (hbest.cost_le later hm)⟩
        · intro h
          rcases h with ⟨rfl, _⟩ | ⟨hlt, rfl⟩
          · rfl
          · exact absurd hlt (Nat.not_lt_of_le hle)
      · rename_i hlt
        rw [Option.some.injEq]
        constructor
        · intro h
          subst h
          exact .inr ⟨Nat.lt_of_not_le hlt, rfl⟩
        · intro h
          rcases h with ⟨rfl, hle⟩ | ⟨_, rfl⟩
          · exact absurd (hle best hbest.mem) hlt
          · rfl

/-- To leave out what costs too much before the search is to refuse it afterwards. -/
theorem isFirstLeast_filter_iff {bound : Nat} :
    IsFirstLeast cost (entries.filter (cost · ≤ bound)) entry ↔
      IsFirstLeast cost entries entry ∧ cost entry ≤ bound := by
  induction entries with
  | nil => simp [IsFirstLeast]
  | cons other rest ih =>
    rw [List.filter_cons, isFirstLeast_cons_iff]
    by_cases hother : cost other ≤ bound
    · rw [if_pos (by simpa using hother), isFirstLeast_cons_iff, ih]
      constructor
      · intro h
        rcases h with ⟨rfl, hrest⟩ | ⟨hlt, hfirst, hle⟩
        · refine ⟨.inl ⟨rfl, ?_⟩, hother⟩
          intro later hm
          by_cases hlater : cost later ≤ bound
          · exact hrest later (List.mem_filter.mpr ⟨hm, by simpa using hlater⟩)
          · omega
        · exact ⟨.inr ⟨hlt, hfirst⟩, hle⟩
      · intro h
        obtain ⟨⟨rfl, hrest⟩ | ⟨hlt, hfirst⟩, hle⟩ := h
        · exact .inl ⟨rfl, fun later hm => hrest later (List.mem_of_mem_filter hm)⟩
        · exact .inr ⟨hlt, hfirst, hle⟩
    · rw [if_neg (by simpa using hother), ih]
      constructor
      · intro h
        obtain ⟨hfirst, hle⟩ := h
        exact ⟨.inr ⟨by omega, hfirst⟩, hle⟩
      · intro h
        obtain ⟨⟨rfl, _⟩ | ⟨_, hfirst⟩, hle⟩ := h
        · exact absurd hle hother
        · exact ⟨hfirst, hle⟩

theorem le_distance_iff {m : Nat} {source target : Text} :
    m ≤ distance source target ↔ ∀ n, Edits n source target → m ≤ n := by
  constructor
  · intro hle n h
    exact hle.trans h.distance_le
  · intro h
    exact h _ (edits_distance source target)

theorem isFirstNearest_iff {edits : Nat} : IsFirstNearest vocabulary word entry edits ↔
    edits = distance word entry ∧ IsFirstLeast (distance word) vocabulary entry := by
  constructor
  · intro h
    obtain ⟨hfewest, before, after, hsplit, hbefore, hafter⟩ := h
    have hedits : edits = distance word entry := hfewest.unique (isLeast_distance word entry)
    subst hedits
    refine ⟨rfl, before, after, hsplit, ?_, ?_⟩
    · intro other hm
      exact le_distance_iff.mpr (hbefore other hm)
    · intro other hm
      exact le_distance_iff.mpr (hafter other hm)
  · intro h
    obtain ⟨rfl, before, after, hsplit, hbefore, hafter⟩ := h
    refine ⟨isLeast_distance word entry, before, after, hsplit, ?_, ?_⟩
    · intro other hm
      exact le_distance_iff.mp (hbefore other hm)
    · intro other hm
      exact le_distance_iff.mp (hafter other hm)

/-- Texts that are as near as the tolerance are as near in length, so a look at the lengths leaves
out nothing that is found. -/
theorem nearest_eq_nearestByDistance (vocabulary : List Text) (word : Text) :
    nearest vocabulary word = nearestByDistance vocabulary word := by
  have hlength (word entry : Text) (gap : Nat) (h : distance word entry ≤ gap) :
      withinLength gap word entry = true := by
    have hscript := (edits_distance word entry).length_le
    simp only [withinLength, Bool.and_eq_true, decide_eq_true_eq]
    omega
  have hfilter (word : Text) :
      (vocabulary.filter fun entry => withinLength (tolerance word) word entry &&
        distance word entry ≤ tolerance word) =
        vocabulary.filter (distance word · ≤ tolerance word) := by
    apply List.filter_congr
    intro entry _
    by_cases h : distance word entry ≤ tolerance word
    · simp [h, hlength word entry _ h]
    · simp [h]
  simp only [nearest, nearestByDistance, hfilter, List.contains_eq_mem]

theorem nearestByDistance_eq_none_iff : nearestByDistance vocabulary word = none ↔
    (Text.lowercase word).length < 3 ∨ Text.lowercase word ∈ vocabulary ∨
      ∀ entry ∈ vocabulary,
        tolerance (Text.lowercase word) < distance (Text.lowercase word) entry := by
  rw [nearestByDistance]
  simp only [Bool.or_eq_true, decide_eq_true_eq, List.contains_iff_mem]
  split
  · rename_i h
    simp only [true_iff]
    exact h.imp_right .inl
  · rename_i h
    rw [not_or] at h
    simp [firstLeast_eq_none_iff, h.1, h.2]

theorem nearestByDistance_eq_some_iff : nearestByDistance vocabulary word = some entry ↔
    3 ≤ (Text.lowercase word).length ∧ Text.lowercase word ∉ vocabulary ∧
      IsFirstLeast (distance (Text.lowercase word)) vocabulary entry ∧
      distance (Text.lowercase word) entry ≤ tolerance (Text.lowercase word) := by
  rw [nearestByDistance]
  simp only [Bool.or_eq_true, decide_eq_true_eq, List.contains_iff_mem]
  split
  · rename_i h
    simp only [reduceCtorEq, false_iff]
    intro hfound
    obtain ⟨hlong, hunknown, _⟩ := hfound
    exact h.elim (Nat.not_lt_of_le hlong) hunknown
  · rename_i h
    rw [not_or] at h
    rw [firstLeast_eq_some_iff, isFirstLeast_filter_iff]
    simp [Nat.le_of_not_lt h.1, h.2]

theorem distance_pos {source target : Text} (h : source ≠ target) : 0 < distance source target := by
  rw [Nat.pos_iff_ne_zero]
  intro hzero
  have hscript := edits_distance source target
  rw [hzero] at hscript
  cases hscript
  exact h rfl

/-- A word of fewer than three letters, a known word, and one from which more than the tolerated
edits lead to any known word is not corrected. Any other word is taken for the first of the known
words to which the fewest edits lead, which are one at least. To leave out the known words that are
too long or too short beforehand changes nothing. -/
theorem nearest_is_the_first_nearest (vocabulary : List Text) (word : Text) :
    let lowered := Text.lowercase word
    let tolerated := min 2 (lowered.length / 3)
    (nearest vocabulary word = none ↔ lowered.length < 3 ∨ lowered ∈ vocabulary ∨
        ∀ entry ∈ vocabulary, ∀ n, Edits n lowered entry → tolerated < n) ∧
      (∀ entry, nearest vocabulary word = some entry ↔ 3 ≤ lowered.length ∧ lowered ∉ vocabulary ∧
        ∃ n, IsFirstNearest vocabulary lowered entry n ∧ 1 ≤ n ∧ n ≤ tolerated) ∧
      nearest vocabulary word = nearestByDistance vocabulary word := by
  intro lowered tolerated
  have htolerated : tolerated = tolerance lowered := min_comm 2 (lowered.length / 3)
  have hdistance := nearest_eq_nearestByDistance vocabulary word
  refine ⟨?_, ?_, hdistance⟩
  · rw [hdistance, nearestByDistance_eq_none_iff, htolerated]
    simp only [← Nat.succ_le_iff, le_distance_iff, lowered]
  · intro entry
    rw [hdistance, nearestByDistance_eq_some_iff, htolerated]
    constructor
    · intro hfound
      obtain ⟨hlong, hunknown, hfirst, hle⟩ := hfound
      have hne : lowered ≠ entry := by
        intro heq
        have hm := hfirst.mem
        rw [← heq] at hm
        exact hunknown hm
      exact ⟨hlong, hunknown, _, isFirstNearest_iff.mpr ⟨rfl, hfirst⟩, distance_pos hne, hle⟩
    · intro hfound
      obtain ⟨hlong, hunknown, n, hnearest, _, hle⟩ := hfound
      obtain ⟨rfl, hfirst⟩ := isFirstNearest_iff.mp hnearest
      exact ⟨hlong, hunknown, hfirst, hle⟩

/-- Two words are as near as each other, and one of them is known twice. -/
theorem nearest_of_equally_near :
    let vocabulary := ["fort".toList, "fourth".toList, "forty".toList, "fourth".toList]
    nearest vocabulary "FOURTY".toList = some "fourth".toList ∧
      ∃ n, IsFirstNearest vocabulary (Text.lowercase "FOURTY".toList) "fourth".toList n ∧
        1 ≤ n ∧ n ≤ 2 := by
  intro vocabulary
  have h : nearest vocabulary "FOURTY".toList = some "fourth".toList := by decide +kernel
  obtain ⟨_, hsome, _⟩ := nearest_is_the_first_nearest vocabulary "FOURTY".toList
  exact ⟨h, ((hsome _).mp h).2.2⟩

end WordArithmetic.Correction
