import Mathlib.Data.List.Infix
import Mathlib.Order.Bounds.Defs
import WordArithmetic.Correction

namespace WordArithmetic.Correction

inductive Edit : Text → Text → Prop
  | insert (before : Text) (letter : Char) (after : Text) :
    Edit (before ++ after) (before ++ letter :: after)
  | delete (before : Text) (letter : Char) (after : Text) :
    Edit (before ++ letter :: after) (before ++ after)
  | replace (before : Text) (old new : Char) (after : Text) :
    Edit (before ++ old :: after) (before ++ new :: after)

/-- A script of so many edits, one after the other, turns the first text into the second. -/
inductive Edits : Nat → Text → Text → Prop
  | none (text : Text) : Edits 0 text text
  | first {n : Nat} {source middle target : Text} :
    Edit source middle → Edits n middle target → Edits (n + 1) source target

theorem Edit.cons {source target : Text} (h : Edit source target) (c : Char) :
    Edit (c :: source) (c :: target) := by
  cases h with
  | insert before letter after => exact .insert (c :: before) letter after
  | delete before letter after => exact .delete (c :: before) letter after
  | replace before old new after => exact .replace (c :: before) old new after

theorem Edit.reverse {source target : Text} (h : Edit source target) :
    Edit source.reverse target.reverse := by
  cases h with
  | insert before letter after => simpa using Edit.insert after.reverse letter before.reverse
  | delete before letter after => simpa using Edit.delete after.reverse letter before.reverse
  | replace before old new after => simpa using Edit.replace after.reverse old new before.reverse

theorem Edits.map {f : Text → Text} (hf : ∀ {source target}, Edit source target →
    Edit (f source) (f target)) {n : Nat} {source target : Text} (h : Edits n source target) :
    Edits n (f source) (f target) := by
  induction h with
  | none text => exact .none (f text)
  | first hedit _ ih => exact .first (hf hedit) ih

theorem Edits.cons {n : Nat} {source target : Text} (h : Edits n source target) (c : Char) :
    Edits n (c :: source) (c :: target) :=
  h.map fun hedit => hedit.cons c

theorem Edits.reverse {n : Nat} {source target : Text} (h : Edits n source target) :
    Edits n source.reverse target.reverse :=
  h.map Edit.reverse

/-- Each edit makes a text longer or shorter by one letter at most. -/
theorem Edits.length_le {n : Nat} {source target : Text} (h : Edits n source target) :
    source.length ≤ target.length + n ∧ target.length ≤ source.length + n := by
  induction h with
  | none text => simp
  | first hedit _ ih =>
    cases hedit <;> simp only [List.length_append, List.length_cons] at ih ⊢ <;> omega

/-- The distances from a text to each ending of the target, the whole target first. -/
def rowOf (source target : Text) : List Nat :=
  source.foldr (fun letter row => extendRow letter target row) (insertions target)

theorem distance_eq (source target : Text) :
    distance source target = (rowOf source target).headD 0 := rfl

theorem rowOf_cons_left (letter : Char) (source target : Text) :
    rowOf (letter :: source) target = extendRow letter target (rowOf source target) := rfl

theorem length_extendRow (letter : Char) (target : Text) {row : List Nat}
    (h : row.length = target.length + 1) :
    (extendRow letter target row).length = target.length + 1 := by
  induction target generalizing row with
  | nil => simpa [extendRow] using h
  | cons c target ih =>
    match row with
    | delete :: keep :: row =>
      have hlonger : (extendRow letter target (keep :: row)).length = target.length + 1 :=
        ih (by simpa using h)
      rw [extendRow]
      cases hrow : extendRow letter target (keep :: row) with
      | nil => simp [hrow] at hlonger
      | cons insert longer => simpa [hrow] using hlonger

/-- A row that has an entry for each ending of the target is extended by one for the next. -/
theorem extendRow_cons (letter c : Char) (target : Text) (delete : Nat) {row : List Nat}
    (h : row.length = target.length + 1) :
    extendRow letter (c :: target) (delete :: row) =
      (if letter = c then row.headD 0
        else 1 + min (row.headD 0) (min delete ((extendRow letter target row).headD 0))) ::
      extendRow letter target row := by
  match row with
  | keep :: row =>
    have hlonger := length_extendRow letter target h
    rw [extendRow]
    cases hrow : extendRow letter target (keep :: row) with
    | nil => simp [hrow] at hlonger
    | cons insert longer => simp

theorem length_insertions (target : Text) : (insertions target).length = target.length + 1 := by
  induction target with
  | nil => rfl
  | cons c target ih => simp [insertions, ih]

theorem length_rowOf (source target : Text) : (rowOf source target).length = target.length + 1 := by
  induction source with
  | nil => exact length_insertions target
  | cons letter source ih => exact length_extendRow letter target ih

theorem rowOf_nil (source : Text) : rowOf source [] = [source.length] := by
  induction source with
  | nil => rfl
  | cons letter source ih => simp [rowOf_cons_left, ih, extendRow]

theorem rowOf_cons (source : Text) (c : Char) (target : Text) :
    rowOf source (c :: target) = distance source (c :: target) :: rowOf source target := by
  induction source with
  | nil => rfl
  | cons letter source ih =>
    rw [distance_eq, rowOf_cons_left letter source (c :: target), ih,
      extendRow_cons letter c target _ (length_rowOf source target)]
    rfl

/-- What the computation goes by from row to row: nothing is missing in any of them, and each entry
is the distance to the ending that it stands for. -/
theorem rowOf_eq (source target : Text) :
    rowOf source target = target.tails.map (distance source) := by
  induction target with
  | nil => simp [rowOf_nil, distance_eq]
  | cons c target ih => rw [rowOf_cons, ih, List.tails_cons, List.map_cons]

theorem distance_nil_left (target : Text) : distance [] target = target.length := by
  cases target <;> rfl

theorem distance_nil_right (source : Text) : distance source [] = source.length := by
  rw [distance_eq, rowOf_nil, List.headD_cons]

theorem distance_cons_cons (a c : Char) (source target : Text) :
    distance (a :: source) (c :: target) =
      if a = c then distance source target
      else 1 + min (distance source target)
        (min (distance source (c :: target)) (distance (a :: source) target)) := by
  rw [distance_eq (a :: source) (c :: target), rowOf_cons_left, rowOf_cons,
    extendRow_cons a c target _ (length_rowOf source target)]
  rfl

theorem distance_comm (source target : Text) : distance source target = distance target source := by
  induction source generalizing target with
  | nil => rw [distance_nil_left, distance_nil_right]
  | cons a source ih =>
    induction target with
    | nil => rw [distance_nil_left, distance_nil_right]
    | cons c target ihtarget =>
      rw [distance_cons_cons, distance_cons_cons, ih target, ih (c :: target), ihtarget,
        min_comm (distance (c :: target) source)]
      by_cases h : a = c
      · rw [if_pos h, if_pos h.symm]
      · rw [if_neg h, if_neg (Ne.symm h)]

/-- Where dropping a letter of the target costs one edit at most, so does a letter more to drop from
the source. -/
theorem distance_cons_le_of_le {source : Text}
    (h : ∀ c target, distance source target ≤ distance source (c :: target) + 1) (a : Char)
    (target : Text) : distance (a :: source) target ≤ distance source target + 1 := by
  cases target with
  | nil => simp [distance_nil_right]
  | cons c target =>
    rw [distance_cons_cons]
    split
    · exact h c target
    · omega

theorem distance_le_cons_right (source : Text) (c : Char) (target : Text) :
    distance source target ≤ distance source (c :: target) + 1 := by
  induction source generalizing c target with
  | nil => simp [distance_nil_left]; omega
  | cons a source ih =>
    have hfront : distance (a :: source) target ≤ distance source target + 1 :=
      distance_cons_le_of_le ih a target
    rw [distance_cons_cons]
    split
    · exact hfront
    · -- The distance to the longer target is that of one of three moves and one more.
      have hsource := ih c target
      omega

theorem distance_cons_left_le (a : Char) (source target : Text) :
    distance (a :: source) target ≤ distance source target + 1 :=
  distance_cons_le_of_le (distance_le_cons_right source) a target

theorem distance_le_cons_left (a : Char) (source target : Text) :
    distance source target ≤ distance (a :: source) target + 1 := by
  rw [distance_comm source, distance_comm (a :: source)]
  exact distance_le_cons_right target a source

/-- Equal letters in front are kept, and that they are never costs anything. -/
theorem distance_cons_le_cons {source middle : Text}
    (h : ∀ target, distance source target ≤ distance middle target + 1) (c : Char)
    (target : Text) : distance (c :: source) target ≤ distance (c :: middle) target + 1 := by
  induction target with
  | nil => simpa [distance_nil_right] using h []
  | cons e target ih =>
    have hkept := h target
    have hdeleted := h (e :: target)
    rw [distance_cons_cons, distance_cons_cons]
    split
    · exact hkept
    · omega

theorem distance_replace_le (old new : Char) (source target : Text) :
    distance (old :: source) target ≤ distance (new :: source) target + 1 := by
  induction target with
  | nil => simp [distance_nil_right]
  | cons e target ih =>
    have htarget := distance_le_cons_right source e target
    have hsource := distance_le_cons_left new source target
    rw [distance_cons_cons, distance_cons_cons]
    split <;> split <;> omega

/-- An edit brings a text nearer to any target by one at most. -/
theorem Edit.distance_le {source middle : Text} (h : Edit source middle) (target : Text) :
    distance source target ≤ distance middle target + 1 := by
  have hbehind {source middle : Text}
      (h : ∀ target, distance source target ≤ distance middle target + 1) (before : Text) :
      ∀ target, distance (before ++ source) target ≤ distance (before ++ middle) target + 1 := by
    induction before with
    | nil => exact h
    | cons c before ih => exact distance_cons_le_cons ih c
  cases h with
  | insert before letter after => exact hbehind (distance_le_cons_left letter after) before target
  | delete before letter after => exact hbehind (distance_cons_left_le letter after) before target
  | replace before old new after => exact hbehind (distance_replace_le old new after) before target

theorem distance_self (text : Text) : distance text text = 0 := by
  induction text with
  | nil => rfl
  | cons c text ih => rw [distance_cons_cons, if_pos rfl, ih]

/-- No script is shorter than the distance. -/
theorem Edits.distance_le {n : Nat} {source target : Text} (h : Edits n source target) :
    distance source target ≤ n := by
  induction h with
  | none text => rw [distance_self]
  | @first n source middle target hedit _ ih =>
    have := hedit.distance_le target
    omega

/-- Where the first letters differ, one of the three edits comes first. -/
theorem distance_cons_cons_cases {a c : Char} (h : a ≠ c) (source target : Text) :
    distance (a :: source) (c :: target) = distance source target + 1 ∨
      distance (a :: source) (c :: target) = distance source (c :: target) + 1 ∨
      distance (a :: source) (c :: target) = distance (a :: source) target + 1 := by
  rw [distance_cons_cons, if_neg h]
  omega

/-- A script is as long as the distance that keeps equal letters, and that elsewhere begins with the
cheapest of the three edits. -/
theorem edits_distance (source target : Text) : Edits (distance source target) source target := by
  induction source generalizing target with
  | nil =>
    rw [distance_nil_left]
    induction target with
    | nil => exact .none []
    | cons c target ih => exact .first (.insert [] c []) (ih.cons c)
  | cons a source ihsource =>
    induction target with
    | nil =>
      rw [distance_nil_right]
      have hrest := ihsource []
      rw [distance_nil_right] at hrest
      exact .first (.delete [] a source) hrest
    | cons c target ihtarget =>
      by_cases h : a = c
      · subst h
        rw [distance_cons_cons, if_pos rfl]
        exact (ihsource target).cons a
      · rcases distance_cons_cons_cases h source target with hmove | hmove | hmove
        · rw [hmove]
          exact .first (.replace [] a c source) ((ihsource target).cons c)
        · rw [hmove]
          exact .first (.delete [] a source) (ihsource (c :: target))
        · rw [hmove]
          exact .first (.insert [] c (a :: source)) (ihtarget.cons c)

theorem isLeast_distance (source target : Text) :
    IsLeast {n | Edits n source target} (distance source target) :=
  ⟨edits_distance source target, fun _ h => Edits.distance_le h⟩

/-- Texts read from their ends lie as far apart. -/
theorem distance_reverse (source target : Text) :
    distance source.reverse target.reverse = distance source target := by
  have hle (source target : Text) :
      distance source.reverse target.reverse ≤ distance source target :=
    (edits_distance source target).reverse.distance_le
  apply Nat.le_antisymm (hle source target)
  simpa using hle source.reverse target.reverse

end WordArithmetic.Correction
