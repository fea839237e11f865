import Mathlib.Data.List.Induction
import WordArithmetic.CommandLine.Argument

namespace WordArithmetic.CommandLine

/-- What a command line is made of. Two options take the next argument, if there is one; any other
argument stands by itself. -/
inductive Piece where
  | parse
  | raw
  | verbose
  | help
  | format (literal? : Option Text)
  | separator (value? : Option Text)
  | word (text : Text)
deriving DecidableEq

namespace Piece

def lone (text : Text) : Piece :=
  if text = "--parse".toList then .parse
  else if text = "--raw".toList then .raw
  else if text = "--verbose".toList ∨ text = "-v".toList then .verbose
  else if text = "--help".toList ∨ text = "-h".toList then .help
  else .word text

def literal? : Piece → Option Text
  | .format literal? => literal?
  | _ => none

def separator? : Piece → Option Char
  | .separator value? => value?.bind Settings.separator?
  | _ => none

def word? : Piece → Option Text
  | .word text => some text
  | _ => none

def read : Piece → Except Refusal Argument
  | .parse => .ok .parse
  | .raw => .ok .raw
  | .verbose => .ok .verbose
  | .help => .error .usage
  | .format none => .error .usage
  | .format (some literal) => .ok (.format literal)
  | .separator value? =>
    match value?.bind Settings.separator? with
    | none => .error .badSeparator
    | some c => .ok (.separator c)
  | .word text => .ok (.word text)

end Piece

def pieces : List Text → List Piece
  | [] => []
  | text :: rest =>
    if text = "--format".toList then
      match rest with
      | [] => [.format none]
      | literal :: rest => .format (some literal) :: pieces rest
    else if text = "--separator".toList then
      match rest with
      | [] => [.separator none]
      | value :: rest => .separator (some value) :: pieces rest
    else .lone text :: pieces rest

theorem pieces_format (literal : Text) (rest : List Text) :
    pieces ("--format".toList :: literal :: rest) = .format (some literal) :: pieces rest := rfl

theorem pieces_separator (value : Text) (rest : List Text) :
    pieces ("--separator".toList :: value :: rest) = .separator (some value) :: pieces rest := rfl

theorem pieces_lone {text : Text} (hf : text ≠ "--format".toList)
    (hs : text ≠ "--separator".toList) (rest : List Text) :
    pieces (text :: rest) = .lone text :: pieces rest := by
  rw [pieces.eq_def]
  simp only [hf, hs, ↓reduceIte]

theorem readAll_format (literal : Text) (rest : List Text) :
    Argument.readAll ("--format".toList :: literal :: rest) =
      (Piece.format (some literal)).read.bind fun a => (Argument.readAll rest).map (a :: ·) := rfl

theorem readAll_separator (value : Text) (rest : List Text) :
    Argument.readAll ("--separator".toList :: value :: rest) =
      (Piece.separator (some value)).read.bind fun a => (Argument.readAll rest).map (a :: ·) := by
  have hread : Argument.readAll ("--separator".toList :: value :: rest) =
      match Settings.separator? value with
      | none => .error .badSeparator
      | some c => (Argument.readAll rest).map (.separator c :: ·) := rfl
  rw [hread, Piece.read, Option.bind_some]
  cases Settings.separator? value <;> rfl

theorem read_lone (text : Text) :
    (Piece.lone text).read =
      match Argument.ofText? text with
      | none => .error .usage
      | some a => .ok a := by
  unfold Piece.lone Argument.ofText?
  split
  · rfl
  split
  · rfl
  split
  · rfl
  split
  · rfl
  · rfl

theorem readAll_lone {text : Text} (hf : text ≠ "--format".toList)
    (hs : text ≠ "--separator".toList) (rest : List Text) :
    Argument.readAll (text :: rest) =
      (Piece.lone text).read.bind fun a => (Argument.readAll rest).map (a :: ·) := by
  rw [Argument.readAll.eq_def, read_lone]
  simp only [hf, hs, ↓reduceIte]
  cases Argument.ofText? text <;> rfl

theorem mapM_read_cons (p : Piece) (ps : List Piece) :
    (p :: ps).mapM Piece.read = p.read.bind fun a => (ps.mapM Piece.read).map (a :: ·) := by
  rw [List.mapM_cons]
  cases p.read with
  | error refusal => rfl
  | ok a => cases ps.mapM Piece.read <;> rfl

/-- The arguments are read piece by piece. -/
theorem readAll_eq (arguments : List Text) :
    Argument.readAll arguments = (pieces arguments).mapM Piece.read := by
  induction arguments using pieces.induct with
  | case1 => rfl
  | case2 => rfl
  | case3 literal rest ih => rw [readAll_format, ih, pieces_format, mapM_read_cons]
  | case4 => rfl
  | case5 value rest _ ih => rw [readAll_separator, ih, pieces_separator, mapM_read_cons]
  | case6 text rest hf hs ih => rw [readAll_lone hf hs, ih, pieces_lone hf hs, mapM_read_cons]

/-- What the pieces of a command line must be so that it is not refused. -/
structure Accepted (ps : List Piece) : Prop where
  no_help : .help ∉ ps
  formats : .format none ∉ ps
  separators : ∀ value?, .separator value? ∈ ps →
    ∃ value c, value? = some value ∧ Settings.separator? value = some c

theorem Accepted.read_ok {ps : List Piece} (h : Accepted ps) {p : Piece} (hm : p ∈ ps) :
    ∃ a, p.read = .ok a := by
  cases p with
  | parse => exact ⟨_, rfl⟩
  | raw => exact ⟨_, rfl⟩
  | verbose => exact ⟨_, rfl⟩
  | help => exact absurd hm h.no_help
  | format literal? =>
    cases literal? with
    | none => exact absurd hm h.formats
    | some literal => exact ⟨_, rfl⟩
  | separator value? =>
    obtain ⟨value, c, rfl, hc⟩ := h.separators value? hm
    exact ⟨.separator c, by rw [Piece.read, Option.bind_some, hc]⟩
  | word text => exact ⟨_, rfl⟩

theorem accepted_of_read_ok {ps : List Piece} (h : ∀ p ∈ ps, ∃ a, p.read = .ok a) :
    Accepted ps where
  no_help := by
    intro hm
    obtain ⟨a, ha⟩ := h _ hm
    cases ha
  formats := by
    intro hm
    obtain ⟨a, ha⟩ := h _ hm
    cases ha
  separators := by
    intro value? hm
    obtain ⟨a, ha⟩ := h _ hm
    cases hc : value?.bind Settings.separator? with
    | none => simp [Piece.read, hc] at ha
    | some c =>
      obtain ⟨value, rfl, hv⟩ := Option.bind_eq_some_iff.mp hc
      exact ⟨value, c, rfl, hv⟩

theorem accepted_iff {ps : List Piece} : Accepted ps ↔ ∀ p ∈ ps, ∃ a, p.read = .ok a :=
  ⟨fun h _ hm => h.read_ok hm, accepted_of_read_ok⟩

theorem mapM_read_of_accepted {ps : List Piece} (h : Accepted ps) :
    ps.mapM Piece.read = .ok (ps.filterMap fun p => p.read.toOption) := by
  rw [accepted_iff] at h
  induction ps with
  | nil => rfl
  | cons p ps ih =>
    obtain ⟨⟨a, ha⟩, hps⟩ := List.forall_mem_cons.mp h
    rw [mapM_read_cons, ih hps, ha, List.filterMap_cons, ha]
    rfl

theorem mapM_read_of_not_accepted {ps : List Piece} (h : ¬ Accepted ps) :
    ∃ refusal, ps.mapM Piece.read = .error refusal := by
  rw [accepted_iff] at h
  induction ps with
  | nil => simp at h
  | cons p ps ih =>
    rw [mapM_read_cons]
    cases hp : p.read with
    | error refusal => exact ⟨refusal, rfl⟩
    | ok a =>
      have hps : ¬ ∀ p ∈ ps, ∃ a, p.read = .ok a := by
        intro hall
        exact h (List.forall_mem_cons.mpr ⟨⟨a, hp⟩, hall⟩)
      obtain ⟨refusal, hr⟩ := ih hps
      exact ⟨refusal, by rw [hr]; rfl⟩

theorem accepted_of_readAll {arguments : List Text} {read : List Argument}
    (h : Argument.readAll arguments = .ok read) : Accepted (pieces arguments) := by
  by_contra hrefused
  obtain ⟨refusal, hr⟩ := mapM_read_of_not_accepted hrefused
  rw [readAll_eq, hr] at h
  cases h

def optionsOf (ps : List Piece) : Options :=
  .ofArguments (ps.filterMap fun p => p.read.toOption)

theorem optionsOf_append (ps : List Piece) (p : Piece) :
    optionsOf (ps ++ [p]) = p.read.toOption.elim (optionsOf ps) (optionsOf ps).adopt := by
  rw [optionsOf, Options.ofArguments, List.filterMap_append, List.foldl_append]
  cases h : p.read.toOption <;> simp [h] <;> rfl

/-- Of options that set the same thing the last wins. -/
theorem optionsOf_eq (ps : List Piece) :
    optionsOf ps =
      { parse := decide (.parse ∈ ps)
        raw := decide (.raw ∈ ps)
        verbose := decide (.verbose ∈ ps)
        format := (ps.filterMap Piece.literal?).getLast?
        separator := (ps.filterMap Piece.separator?).getLast?
        words := ps.filterMap Piece.word? } := by
  induction ps using List.reverseRecOn with
  | nil => rfl
  | append_singleton ps p ih =>
    rw [optionsOf_append, ih]
    cases p with
    | format literal? =>
      cases literal? <;>
        simp [Piece.read, Except.toOption, Options.adopt, Piece.literal?, Piece.separator?,
          Piece.word?]
    | separator value? =>
      cases hc : value?.bind Settings.separator? <;>
        simp [Piece.read, Except.toOption, Options.adopt, Piece.literal?, Piece.separator?,
          Piece.word?, hc]
    | _ =>
      simp [Piece.read, Except.toOption, Options.adopt, Piece.literal?, Piece.separator?,
        Piece.word?]

end WordArithmetic.CommandLine
