import Mathlib.Data.List.TakeWhile
import WordArithmetic.Text.Basic

namespace WordArithmetic.Text

/-- What a text is divided into at its blanks. -/
def IsWord (w : Text) : Prop :=
  w ≠ [] ∧ ∀ c ∈ w, isBlank c = false

@[simp]
theorem words_nil : words [] = [] := by
  simp [words]

/-- A blank anywhere divides the text into two that are read apart. -/
theorem words_append_blank (x y : Text) {c : Char} (hc : isBlank c = true) :
    words (x ++ c :: y) = words x ++ words y := by
  unfold words
  rw [List.splitOnP_append_cons x y hc, List.filter_append]

theorem words_cons_blank (y : Text) {c : Char} (hc : isBlank c = true) :
    words (c :: y) = words y := by
  simpa using words_append_blank [] y hc

theorem words_of_isWord {w : Text} (hw : IsWord w) : words w = [w] := by
  unfold words
  rw [List.splitOnP_eq_singleton hw.2]
  simp [hw.1]

/-- A text without blanks is one word, or empty and none. -/
theorem words_blankless {w : Text} (hw : ∀ c ∈ w, isBlank c = false) :
    words w = if w = [] then [] else [w] := by
  by_cases he : w = []
  · simp [he]
  · simp [he, words_of_isWord ⟨he, hw⟩]

theorem eq_first_blank (t : Text) (ht : ¬ ∀ c ∈ t, isBlank c = false) :
    ∃ x c y, t = x ++ c :: y ∧ (∀ d ∈ x, isBlank d = false) ∧ isBlank c = true := by
  induction t with
  | nil => simp at ht
  | cons d t ih =>
    cases hd : isBlank d with
    | true => exact ⟨[], d, t, rfl, by simp, hd⟩
    | false =>
      obtain ⟨x, c, y, he, hx, hc⟩ := ih (by simpa [hd] using ht)
      exact ⟨d :: x, c, y, by simp [he], by simpa [hd] using hx, hc⟩

/-- Induction from one blank to the next. -/
@[elab_as_elim]
theorem blank_induction {motive : Text → Prop}
    (blankless : ∀ w, (∀ c ∈ w, isBlank c = false) → motive w)
    (blank : ∀ w c t, (∀ d ∈ w, isBlank d = false) → isBlank c = true → motive t →
      motive (w ++ c :: t))
    (t : Text) : motive t := by
  by_cases ht : ∀ c ∈ t, isBlank c = false
  · exact blankless t ht
  · obtain ⟨w, c, y, he, hw, hc⟩ := eq_first_blank t ht
    have hlt : y.length < t.length := by simp [he]; omega
    rw [he]
    exact blank w c y hw hc (blank_induction blankless blank y)
termination_by t.length

theorem eq_of_mem_words {x w : Text} (hx : ∀ c ∈ x, isBlank c = false) (hw : w ∈ words x) :
    w = x ∧ w ≠ [] := by
  rw [words_blankless hx] at hw
  split at hw
  · simp at hw
  · rename_i hne
    rw [List.mem_singleton] at hw
    exact ⟨hw, hw ▸ hne⟩

theorem isWord_of_mem {t w : Text} (hw : w ∈ words t) : IsWord w := by
  induction t using blank_induction with
  | blankless t ht =>
    obtain ⟨rfl, hne⟩ := eq_of_mem_words ht hw
    exact ⟨hne, ht⟩
  | blank x c y hx hc ih =>
    rw [words_append_blank x y hc] at hw
    rcases List.mem_append.mp hw with hw | hw
    · obtain ⟨rfl, hne⟩ := eq_of_mem_words hx hw
      exact ⟨hne, hx⟩
    · exact ih hw

theorem mem_of_mem_words {t w : Text} {c : Char} (hw : w ∈ words t) (hc : c ∈ w) : c ∈ t := by
  induction t using blank_induction with
  | blankless t ht =>
    obtain ⟨rfl, _⟩ := eq_of_mem_words ht hw
    exact hc
  | blank x d y hx hd ih =>
    rw [words_append_blank x y hd] at hw
    rcases List.mem_append.mp hw with hw | hw
    · obtain ⟨rfl, _⟩ := eq_of_mem_words hx hw
      exact List.mem_append_left _ hc
    · exact List.mem_append_right _ (List.mem_cons_of_mem d (ih hw))

/-- What a blank divides into two parts that are taken apart is taken word by word. -/
theorem eq_flatMap_words {α : Type} {f : Text → List α} (hnil : f [] = [])
    (hblank : ∀ x y c, isBlank c = true → f (x ++ c :: y) = f x ++ f y) (t : Text) :
    f t = (words t).flatMap f := by
  have hword (w : Text) (hw : ∀ c ∈ w, isBlank c = false) : f w = (words w).flatMap f := by
    rw [words_blankless hw]
    split
    · rename_i he
      rw [he, hnil, List.flatMap_nil]
    · rw [List.flatMap_singleton]
  induction t using blank_induction with
  | blankless w hw => exact hword w hw
  | blank w c t hw hc ih =>
    rw [hblank w t c hc, words_append_blank w t hc, List.flatMap_append, ← hword w hw, ← ih]

theorem isBlank_space : isBlank ' ' = true := by
  decide

@[simp]
theorem unwords_singleton (w : Text) : unwords [w] = w :=
  List.intercalate_singleton

theorem unwords_cons (w : Text) {ws : List Text} (hw : ws ≠ []) :
    unwords (w :: ws) = w ++ ' ' :: unwords ws := by
  simp [unwords, List.intercalate_cons_of_ne_nil hw]

/-- Joining texts with spaces joins their words. -/
theorem words_unwords (ts : List Text) : words (unwords ts) = ts.flatMap words := by
  induction ts with
  | nil => exact words_nil
  | cons t ts ih =>
    by_cases hts : ts = []
    · simp [hts]
    · rw [unwords_cons t hts, words_append_blank _ _ isBlank_space, ih, List.flatMap_cons]

theorem flatMap_words {ws : List Text} (hw : ∀ w ∈ ws, IsWord w) : ws.flatMap words = ws := by
  induction ws with
  | nil => rfl
  | cons w ws ih =>
    rw [List.flatMap_cons, words_of_isWord (hw w (by simp)), ih (fun v hv => hw v (by simp [hv]))]
    rfl

/-- Words joined by single spaces are read back. -/
theorem words_unwords_of_isWord {ws : List Text} (hw : ∀ w ∈ ws, IsWord w) :
    words (unwords ws) = ws := by
  rw [words_unwords, flatMap_words hw]

theorem words_dropWhile (t : Text) : words (t.dropWhile isBlank) = words t := by
  induction t with
  | nil => rfl
  | cons c t ih =>
    cases hc : isBlank c with
    | true => rw [List.dropWhile_cons_of_pos hc, ih, words_cons_blank t hc]
    | false => rw [List.dropWhile_cons_of_neg (by simp [hc])]

theorem words_blanks {y : Text} (hy : ∀ c ∈ y, isBlank c = true) : words y = [] := by
  induction y with
  | nil => rfl
  | cons c y ih =>
    rw [words_cons_blank y (hy c (by simp))]
    exact ih (fun d hd => hy d (List.mem_cons_of_mem c hd))

theorem words_blanks_append {x : Text} (hx : ∀ c ∈ x, isBlank c = true) (y : Text) :
    words (x ++ y) = words y := by
  induction x with
  | nil => rfl
  | cons c x ih =>
    rw [List.cons_append, words_cons_blank _ (hx c (by simp))]
    exact ih (fun d hd => hx d (List.mem_cons_of_mem c hd))

/-- A word ends where a blank follows or nothing. -/
theorem words_isWord_append {w rest : Text} (hw : IsWord w)
    (hrest : rest.head?.all isBlank = true) : words (w ++ rest) = w :: words rest := by
  cases rest with
  | nil => rw [List.append_nil, words_of_isWord hw, words_nil]
  | cons c rest =>
    have hc : isBlank c = true := hrest
    rw [words_append_blank _ _ hc, words_of_isWord hw, words_cons_blank rest hc]
    rfl

def IsGap (gap : Text) : Prop :=
  gap ≠ [] ∧ ∀ c ∈ gap, isBlank c = true

theorem words_append_blanks (x : Text) {y : Text} (hy : ∀ c ∈ y, isBlank c = true) :
    words (x ++ y) = words x := by
  cases y with
  | nil => rw [List.append_nil]
  | cons c y =>
    rw [words_append_blank x y (hy c (by simp)),
      words_blanks (fun d hd => hy d (List.mem_cons_of_mem c hd)), List.append_nil]

/-- A text without words holds nothing but blanks. -/
theorem words_eq_nil_iff {t : Text} : words t = [] ↔ ∀ c ∈ t, isBlank c = true := by
  refine ⟨?_, words_blanks⟩
  intro h
  induction t using blank_induction with
  | blankless w hw =>
    rw [words_blankless hw] at h
    split at h
    · rename_i he
      simp [he]
    · contradiction
  | blank w c t hw hc ih =>
    rw [words_append_blank w t hc, List.append_eq_nil_iff, words_blankless hw] at h
    obtain ⟨hnil, ht⟩ := h
    split at hnil
    · rename_i he
      simpa [he, hc] using ih ht
    · contradiction

/-- Blanks at the ends of a text belong to no word. -/
theorem words_trim (t : Text) : words (trim t) = words t := by
  have hsplit (x : Text) : words (x.reverse.dropWhile isBlank).reverse = words x := by
    have hx : x = (x.reverse.dropWhile isBlank).reverse ++
        (x.reverse.takeWhile isBlank).reverse := by
      rw [← List.reverse_append, List.takeWhile_append_dropWhile, List.reverse_reverse]
    conv => rhs; rw [hx]
    rw [words_append_blanks]
    intro c hc
    exact List.all_eq_true.mp List.all_takeWhile c (List.mem_reverse.mp hc)
  rw [trim, hsplit, words_dropWhile]

theorem trim_eq_nil_iff {t : Text} : trim t = [] ↔ ∀ c ∈ t, isBlank c = true := by
  rw [trim, List.reverse_eq_nil_iff, List.dropWhile_eq_nil_iff]
  constructor
  · intro h c hc
    have hsplit : t.takeWhile isBlank ++ t.dropWhile isBlank = t := List.takeWhile_append_dropWhile
    rw [← hsplit] at hc
    rcases List.mem_append.mp hc with hc | hc
    · exact List.all_eq_true.mp List.all_takeWhile c hc
    · exact h c (List.mem_reverse.mpr hc)
  · intro h c hc
    exact h c ((List.dropWhile_sublist isBlank).subset (List.mem_reverse.mp hc))

end WordArithmetic.Text
