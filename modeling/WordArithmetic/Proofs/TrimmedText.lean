import Mathlib.Data.List.DropRight
import WordArithmetic.Proofs.Words

namespace WordArithmetic.Text

variable {x y t : Text} {c : Char}

theorem trim_eq (t : Text) : trim t = (t.dropWhile isBlank).rdropWhile isBlank := rfl

theorem trim_blanks_append (hx : ∀ c ∈ x, isBlank c = true) (y : Text) :
    trim (x ++ y) = trim y := by
  rw [trim, List.dropWhile_append_of_pos hx, trim]

theorem trim_append_blanks (x : Text) (hy : ∀ c ∈ y, isBlank c = true) :
    trim (x ++ y) = trim x := by
  cases hx : x.dropWhile isBlank with
  | nil =>
    rw [List.dropWhile_eq_nil_iff] at hx
    rw [trim_blanks_append hx, trim_eq_nil_iff.mpr hx, trim_eq_nil_iff.mpr hy]
  | cons c rest =>
    have hreverse : ∀ c ∈ y.reverse, isBlank c = true := by simpa using hy
    rw [trim, trim, List.dropWhile_append, hx, List.isEmpty_cons, if_neg Bool.false_ne_true,
      List.reverse_append, List.dropWhile_append_of_pos hreverse]

theorem dropWhile_append_cons (x y : Text) (hc : isBlank c = false) :
    (x ++ c :: y).dropWhile isBlank = x.dropWhile isBlank ++ c :: y := by
  rw [List.dropWhile_append]
  split
  · rename_i hx
    rw [List.isEmpty_iff.mp hx, List.dropWhile_cons_of_neg (by simp [hc]), List.nil_append]
  · rfl

/-- What is no blank parts the two ends. -/
theorem trim_append_cons (x y : Text) (hc : isBlank c = false) :
    trim (x ++ c :: y) = x.dropWhile isBlank ++ c :: y.rdropWhile isBlank := by
  have hreverse (z : Text) : (z ++ c :: y).reverse = y.reverse ++ c :: z.reverse := by simp
  rw [trim_eq, dropWhile_append_cons x y hc, List.rdropWhile, hreverse,
    dropWhile_append_cons _ _ hc, List.rdropWhile]
  simp

theorem trim_dropWhile (t : Text) : trim (t.dropWhile isBlank) = trim t := by
  rw [trim, List.dropWhile_idempotent, trim]

theorem trim_rdropWhile (t : Text) : trim (t.rdropWhile isBlank) = trim t := by
  conv => rhs; rw [← List.rdropWhile_append_rtakeWhile (p := isBlank) (l := t)]
  rw [trim_append_blanks]
  intro c hc
  exact List.mem_rtakeWhile_imp hc

theorem mem_of_mem_trim (h : c ∈ trim t) : c ∈ t := by
  rw [trim_eq] at h
  exact (List.dropWhile_sublist isBlank).subset ((List.rdropWhile_prefix isBlank _).subset h)

theorem trim_eq_self (hfirst : t.head?.any isBlank = false)
    (hlast : t.getLast?.any isBlank = false) : trim t = t := by
  cases t with
  | nil => rfl
  | cons c t =>
    have hc : isBlank c = false := hfirst
    rw [trim_eq, List.dropWhile_cons_of_neg (by simp [hc]), List.rdropWhile_eq_self_iff]
    intro hne
    rw [List.getLast?_eq_some_getLast hne, Option.any_some] at hlast
    simp [hlast]

/-- Blanks around a text that neither begins nor ends with one are all that is trimmed. -/
theorem trim_between (hx : ∀ c ∈ x, isBlank c = true) (hy : ∀ c ∈ y, isBlank c = true)
    (hfirst : t.head?.any isBlank = false) (hlast : t.getLast?.any isBlank = false) :
    trim (x ++ t ++ y) = t := by
  rw [trim_append_blanks _ hy, trim_blanks_append hx, trim_eq_self hfirst hlast]

end WordArithmetic.Text
