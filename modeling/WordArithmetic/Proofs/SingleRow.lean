import WordArithmetic.Proofs.EditScripts

namespace WordArithmetic.Correction

def overwrite? (row : List Nat) (index entry : Nat) : Option (List Nat) :=
  if index < row.length then some (row.set index entry) else none

/-- Overwrites the entries behind an index one by one, for the letters of the target that are left.
The diagonal is what stood at the index before. -/
def overwriteFrom? (letter : Char) (diagonal index : Nat) (row : List Nat) :
    Text → Option (List Nat)
  | [] => some row
  | c :: target => do
    let above ← row[index + 1]?
    let left ← row[index]?
    let entry := if letter = c then diagonal else 1 + min (min diagonal above) left
    overwriteFrom? letter above (index + 1) (← overwrite? row (index + 1) entry) target

def readOn? (target : Text) (count : Nat) (row : List Nat) : Text → Option Nat
  | [] => row[target.length]?
  | letter :: source => do
    let diagonal ← row[0]?
    let row ← overwriteFrom? letter diagonal 0 (← overwrite? row 0 (count + 1)) target
    readOn? target (count + 1) row source

/-- The distance by one row, which is overwritten for each letter of the source. It has an entry
for each beginning of the target, the shortest first. -/
def distanceInOneRow? (source target : Text) : Option Nat :=
  readOn? target 0 (List.range (target.length + 1)) source

/-- The last letters are compared as the first ones are. -/
theorem distance_concat_concat (a c : Char) (source target : Text) :
    distance (source ++ [a]) (target ++ [c]) =
      if a = c then distance source target
      else 1 + min (distance source target)
        (min (distance source (target ++ [c])) (distance (source ++ [a]) target)) := by
  have hfirst := distance_cons_cons a c source.reverse target.reverse
  rw [← distance_reverse, ← distance_reverse source target,
    ← distance_reverse source (target ++ [c]), ← distance_reverse (source ++ [a]) target]
  simpa using hfirst

/-- A row while a letter is read. Up to the index its entries are the distances from the letters
read with this one, and behind it they still are those from the letters read before. -/
def HalfRead (read : Text) (letter : Char) (target : Text) (index : Nat) (row : List Nat) : Prop :=
  ∀ k ≤ target.length,
    row[k]? = some (distance (if k ≤ index then read ++ [letter] else read) (target.take k))

variable {read target : Text} {letter : Char} {row : List Nat}

theorem HalfRead.overwrite {index entry : Nat} (h : HalfRead read letter target index row)
    (hle : index + 1 ≤ target.length)
    (hentry : entry = distance (read ++ [letter]) (target.take (index + 1))) :
    ∃ longer, overwrite? row (index + 1) entry = some longer ∧
      HalfRead read letter target (index + 1) longer := by
  have hlt : index + 1 < row.length := (List.getElem?_eq_some_iff.mp (h _ hle)).1
  refine ⟨row.set (index + 1) entry, if_pos hlt, ?_⟩
  intro k hk
  by_cases hhere : k = index + 1
  · subst hhere
    rw [List.getElem?_set_self hlt, if_pos le_rfl, hentry]
  · have hside : k ≤ index ↔ k ≤ index + 1 := by omega
    rw [List.getElem?_set_ne (Ne.symm hhere), h k hk]
    simp only [hside]

/-- From an index on the letter is read to the end of the row. -/
theorem overwriteFrom?_eq (before after : Text) {row : List Nat}
    (h : HalfRead read letter (before ++ after) before.length row) :
    ∃ done, overwriteFrom? letter (distance read before) before.length row after = some done ∧
      HalfRead read letter (before ++ after) (before ++ after).length done := by
  induction after generalizing before row with
  | nil => exact ⟨row, rfl, by simpa using h⟩
  | cons c after ih =>
    have hlonger : (before ++ c :: after).take (before.length + 1) = before ++ [c] := by
      simp [List.take_append]
    have hle : before.length + 1 ≤ (before ++ c :: after).length := by simp
    have habove : row[before.length + 1]? = some (distance read (before ++ [c])) := by
      rw [h _ hle, if_neg (Nat.not_succ_le_self _), hlonger]
    have hleft : row[before.length]? = some (distance (read ++ [letter]) before) := by
      rw [h _ (Nat.le_of_succ_le hle), if_pos le_rfl, List.take_left]
    obtain ⟨longer, hoverwrite, hhalf⟩ := h.overwrite hle rfl
    rw [hlonger, distance_concat_concat] at hoverwrite
    have hsplit : before ++ c :: after = (before ++ [c]) ++ after := by simp
    rw [hsplit] at hhalf ⊢
    obtain ⟨done, hdone, hread⟩ := ih (before ++ [c]) (by simpa using hhalf)
    refine ⟨done, ?_, hread⟩
    rw [overwriteFrom?, habove, hleft]
    simp only [Option.bind_eq_bind, Option.bind_some, min_assoc, hoverwrite]
    simpa using hdone

def IsRead (read target : Text) (row : List Nat) : Prop :=
  ∀ k ≤ target.length, row[k]? = some (distance read (target.take k))

/-- One more letter turns the row of the letters read before into the row of those read now. -/
theorem IsRead.step (h : IsRead read target row) (letter : Char) :
    ∃ longer done, overwrite? row 0 (read.length + 1) = some longer ∧
      overwriteFrom? letter read.length 0 longer target = some done ∧
      IsRead (read ++ [letter]) target done := by
  have hlt : 0 < row.length := (List.getElem?_eq_some_iff.mp (h 0 (Nat.zero_le _))).1
  have hhalf : HalfRead read letter target 0 (row.set 0 (read.length + 1)) := by
    intro k hk
    cases k with
    | zero => simp [List.getElem?_set_self hlt, distance_nil_right]
    | succ k =>
      rw [List.getElem?_set_ne (Nat.succ_ne_zero k).symm, h _ hk, if_neg (Nat.not_succ_le_zero k)]
  obtain ⟨done, hdone, hread⟩ := overwriteFrom?_eq [] target hhalf
  rw [distance_nil_right] at hdone
  refine ⟨_, done, if_pos hlt, hdone, ?_⟩
  intro k hk
  rw [hread k hk, List.nil_append, if_pos hk]

theorem readOn?_eq (source : Text) (h : IsRead read target row) :
    readOn? target read.length row source = some (distance (read ++ source) target) := by
  induction source generalizing read row with
  | nil => rw [readOn?, h target.length le_rfl, List.take_length, List.append_nil]
  | cons letter source ih =>
    obtain ⟨longer, done, hlonger, hdone, hread⟩ := h.step letter
    have hfirst : row[0]? = some read.length := by
      rw [h 0 (Nat.zero_le _), List.take_zero, distance_nil_right]
    have hrest := ih hread
    rw [List.length_append, List.append_assoc] at hrest
    rw [readOn?, hfirst]
    simp only [Option.bind_eq_bind, Option.bind_some, hlonger, hdone]
    exact hrest

/-- No index is out of bounds in the one row, and its last entry is the distance. -/
theorem distanceInOneRow?_eq (source target : Text) :
    distanceInOneRow? source target = some (distance source target) := by
  have hstart : IsRead [] target (List.range (target.length + 1)) := by
    intro k hk
    rw [distance_nil_left, List.length_take_of_le hk]
    exact List.getElem?_range (Nat.lt_succ_of_le hk)
  exact readOn?_eq source hstart

/-- The distance is the least number of insertions, deletions and replacements of one letter that
turn the source into the target. No row that is gone through on the way to it lacks an entry, each
entry being the distance to an ending of the target; and a single row that is overwritten index by
index gives the same, with every index in bounds. -/
theorem distance_is_the_fewest_edits (source target : Text) :
    IsLeast {n | Edits n source target} (distance source target) ∧
      (∀ ending, rowOf ending target = target.tails.map (distance ending)) ∧
      distanceInOneRow? source target = some (distance source target) :=
  ⟨isLeast_distance source target, fun ending => rowOf_eq ending target,
    distanceInOneRow?_eq source target⟩

end WordArithmetic.Correction
