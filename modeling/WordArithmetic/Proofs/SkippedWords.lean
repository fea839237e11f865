import WordArithmetic.Proofs.Sessions
import WordArithmetic.Proofs.Warnings

namespace WordArithmetic

namespace Numeral

/-- Reading passes over unknown words in order, and if there is a value, over all of them. -/
theorem readWords_passes (t : Tally) (words : List Text) :
    (readWords t words).skipped <+: words.filter (!isNumberWord ·) ∧
      ∀ v, (readWords t words).value = some v →
        (readWords t words).skipped = words.filter (!isNumberWord ·) := by
  induction words generalizing t with
  | nil => exact ⟨List.prefix_rfl, fun _ _ => rfl⟩
  | cons word rest ih =>
    cases hn : NumberWord.ofText? word with
    | none =>
      have hfilter : (word :: rest).filter (!isNumberWord ·) =
          word :: rest.filter (!isNumberWord ·) := by simp [isNumberWord, hn]
      obtain ⟨hpart, hall⟩ := ih t
      rw [hfilter]
      simp only [readWords, hn]
      refine ⟨(List.prefix_cons_inj word).mpr hpart, ?_⟩
      intro v hv
      rw [hall v hv]
    | some n =>
      have hfilter : (word :: rest).filter (!isNumberWord ·) = rest.filter (!isNumberWord ·) := by
        simp [isNumberWord, hn]
      rw [hfilter]
      simp only [readWords, hn]
      cases t.extend? n with
      | some longer => exact ih longer
      | none =>
        refine ⟨List.nil_prefix, ?_⟩
        intro v hv
        cases hv

theorem read_passes (phrase : Text) :
    (read phrase).skipped <+: unknownWords phrase ∧
      ∀ v, (read phrase).value = some v → (read phrase).skipped = unknownWords phrase := by
  rw [read_eq_readWords, unknownWords]
  exact readWords_passes .start _

end Numeral

namespace Noted

variable {α β : Type}

/-- The words passed over are those that went before and, in order, some of the others. They are
all of these if there is a result. -/
structure Passes (noted : Noted α) (before words : List Text) : Prop where
  part : noted.notes.skipped <+: before ++ words
  all : ∀ a, noted.result = .ok a → noted.notes.skipped = before ++ words

theorem passes_error (fault : Fault) (notes : Notes) (words : List Text) :
    Passes (⟨.error fault, notes⟩ : Noted α) notes.skipped words := by
  refine ⟨List.prefix_append _ _, ?_⟩
  intro a h
  cases h

theorem passes_ok (a : α) (notes : Notes) : Passes ⟨.ok a, notes⟩ notes.skipped [] :=
  ⟨List.prefix_append _ _, fun _ _ => (List.append_nil _).symm⟩

theorem Passes.andThen {noted : Noted α} {before words more : List Text}
    (h : noted.Passes before words) {next : α → Notes → Noted β}
    (hnext : ∀ a notes, (next a notes).Passes notes.skipped more) :
    (noted.andThen next).Passes before (words ++ more) := by
  obtain ⟨result, notes⟩ := noted
  cases result with
  | ok a =>
    have hskipped : notes.skipped = before ++ words := h.all a rfl
    have hmore : (next a notes).Passes (before ++ words) more := hskipped ▸ hnext a notes
    exact ⟨by simpa [Noted.andThen] using hmore.part, by simpa [Noted.andThen] using hmore.all⟩
  | error fault =>
    refine ⟨h.part.trans (by simp), ?_⟩
    intro b hb
    cases hb

end Noted

namespace Token

def passedOver (tokens : List Token) : List Text :=
  (operands tokens).flatMap Numeral.unknownWords

theorem passedOver_operator (op : Operator) (phrase : Text) (p : Nat) (tokens : List Token) :
    passedOver (⟨.operator op phrase, p⟩ :: tokens) = passedOver tokens := rfl

theorem passedOver_operand (text : Text) (p : Nat) (tokens : List Token) :
    passedOver (⟨.operand text, p⟩ :: tokens) =
      Numeral.unknownWords text ++ passedOver tokens := rfl

theorem passedOver_cons (token : Token) (tokens : List Token) :
    passedOver (token :: tokens) = passedOver [token] ++ passedOver tokens := by
  obtain ⟨part, p⟩ := token
  cases part with
  | operator op phrase => rfl
  | operand text =>
    rw [passedOver_operand, passedOver_operand, List.append_assoc]
    rfl

end Token

namespace Notes

theorem readOperand_passes (notes : Notes) (token : Token) :
    (notes.readOperand id token).Passes notes.skipped (Token.passedOver [token]) := by
  obtain ⟨part, position⟩ := token
  cases part with
  | operator op phrase => exact Noted.passes_error _ _ _
  | operand text =>
    obtain ⟨hpart, hall⟩ := Numeral.read_passes text
    have hwords : Token.passedOver [⟨.operand text, position⟩] = Numeral.unknownWords text :=
      List.append_nil _
    rw [hwords]
    simp only [readOperand]
    split
    · split
      · rename_i v hv
        refine ⟨(List.prefix_append_right_inj _).mpr hpart, ?_⟩
        intro _ _
        rw [hall v hv]
      · refine ⟨(List.prefix_append_right_inj _).mpr hpart, ?_⟩
        intro v hv
        cases hv
    · exact Noted.passes_error _ _ _

theorem readOperandAnd_passes {α : Type} {readRest : Notes → Noted (List Step)}
    {words : List Text} (hrest : ∀ notes : Notes, (readRest notes).Passes notes.skipped words)
    (notes : Notes) (operand : Token) (make : Value → List Step → α) :
    (notes.readOperandAnd id operand readRest make).Passes notes.skipped
      (Token.passedOver [operand] ++ words) := by
  refine (readOperand_passes notes operand).andThen ?_
  intro v after
  rw [← List.append_nil words]
  refine (hrest after).andThen ?_
  intro steps last
  exact Noted.passes_ok _ _

theorem readSteps_passes (notes : Notes) (tokens : List Token) :
    (notes.readSteps id tokens).Passes notes.skipped (Token.passedOver tokens) := by
  match tokens with
  | [] => exact Noted.passes_ok _ _
  | ⟨.operand text, p⟩ :: rest => exact Noted.passes_error _ _ _
  | [⟨.operator op phrase, p⟩] => exact Noted.passes_error _ _ _
  | ⟨.operator op phrase, p⟩ :: operand :: rest =>
    rw [readSteps, Token.passedOver_operator, Token.passedOver_cons]
    apply readOperandAnd_passes
    intro after
    exact readSteps_passes after rest

/-- An analysis passes over words of the operands, in order, and over all of them if it succeeds. -/
theorem analyze_passes (notes : Notes) (tokens : List Token) :
    (notes.analyze id tokens).Passes notes.skipped (Token.passedOver tokens) := by
  cases tokens with
  | nil => exact Noted.passes_error _ _ _
  | cons first rest =>
    rw [analyze, Token.passedOver_cons]
    apply readOperandAnd_passes
    intro after
    exact readSteps_passes after rest

/-- The words that an analysis passes over are those that it warns of. -/
theorem analyze_skipped {tokens : List Token} {e : Expression}
    (h : (analyze id {} tokens).result = .ok e) :
    (analyze id {} tokens).notes.skipped =
      (analyze id {} tokens).notes.warnings.map Warning.word := by
  rw [analyze_warnings {} h, (analyze_passes {} tokens).all e h, List.nil_append, List.nil_append]
  exact (Token.word_warnings tokens).symm

end Notes

end WordArithmetic
