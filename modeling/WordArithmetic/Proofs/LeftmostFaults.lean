import WordArithmetic.Proofs.Sessions
import WordArithmetic.Proofs.Warnings

namespace WordArithmetic

/-- A text that is not a number may be misspelled. The last of the warnings at its position or after
it says how, and no other cause comes with a suggestion. -/
def Fault.Cause.suggestionFrom (warnings : List Warning) (position : Nat) : Cause → Option Text
  | .notANumber _ => (warnings.reverse.find? (position ≤ ·.position)).bind Warning.suggestion
  | _ => none

namespace Token

/-- The tokens at the even indices, where operands belong. -/
def evens : List Token → List Token
  | [] => []
  | [token] => [token]
  | token :: _ :: rest => token :: evens rest

def warningsOf (count : Nat → Nat) (tokens : List Token) : List Warning :=
  (warnings (evens tokens)).map (Warning.counted count)

/-- What tokens in any order are analyzed as, and the warnings that go with it. -/
inductive Analyzed (count : Nat → Nat) (tokens : List Token) :
    Except Fault Expression → List Warning → Prop
  | nothing : tokens = [] → Analyzed count tokens (.error ⟨.nothing, none, none⟩) []
  | fault {i : Nat} {token : Token} {cause : Fault.Cause} {read : List Warning} :
    tokens[i]? = some token → faultAt? tokens i = some cause →
    (∀ j < i, faultAt? tokens j = none) → read = warningsOf count (tokens.take (i + 1)) →
    Analyzed count tokens
      (.error ⟨cause, some token.position, cause.suggestionFrom read token.position⟩) read
  | expression {e : Expression} : tokens ≠ [] → (∀ i, faultAt? tokens i = none) →
    e.first.toInt = exactFirst tokens → e.steps.map Step.exact = exactSteps tokens →
    Analyzed count tokens (.ok e) (warningsOf count tokens)

def ReadsTo (tokens : List Token) (n : Nat) : Prop :=
  (∀ j < n, faultAt? tokens j = none) ∧ (faultAt? tokens n ≠ none ∨ tokens.length ≤ n)

end Token

namespace Noted

variable {α β : Type}

def Suggests (noted : Noted α) : Prop :=
  ∀ cause position suggestion, noted.result = .error ⟨cause, some position, suggestion⟩ →
    suggestion = cause.suggestionFrom noted.notes.warnings position

theorem suggests_ok (a : α) (notes : Notes) : Suggests ⟨.ok a, notes⟩ := by
  intro cause position suggestion h
  cases h

theorem suggests_atWord {cause : Fault.Cause} (h : ∀ text, cause ≠ .notANumber text)
    (position : Nat) (notes : Notes) :
    Suggests (⟨.error (.atWord position cause), notes⟩ : Noted α) := by
  intro other place suggestion he
  cases he
  cases cause with
  | notANumber text => exact absurd rfl (h text)
  | _ => rfl

theorem Suggests.andThen {noted : Noted α} (h : noted.Suggests) {next : α → Notes → Noted β}
    (hnext : ∀ a notes, (next a notes).Suggests) : (noted.andThen next).Suggests := by
  obtain ⟨result, notes⟩ := noted
  cases result with
  | ok a => exact hnext a notes
  | error fault =>
    intro cause position suggestion he
    cases he
    exact h cause position suggestion rfl

end Noted

namespace Notes

variable (count : Nat → Nat)

theorem readOperand_suggests (notes : Notes) (token : Token) :
    (notes.readOperand count token).Suggests := by
  obtain ⟨part, position⟩ := token
  cases part with
  | operator op phrase => exact Noted.suggests_atWord (by simp) position notes
  | operand text =>
    simp only [readOperand]
    split
    · split
      · exact Noted.suggests_ok _ _
      · exact Noted.suggests_atWord (by simp) position _
    · intro cause place suggestion he
      cases he
      rfl

theorem readOperandAnd_suggests {α : Type} {readRest : Notes → Noted (List Step)}
    (hrest : ∀ notes, (readRest notes).Suggests) (notes : Notes) (operand : Token)
    (make : Value → List Step → α) :
    (notes.readOperandAnd count operand readRest make).Suggests := by
  refine (readOperand_suggests count notes operand).andThen ?_
  intro v after
  refine (hrest after).andThen ?_
  intro steps last
  exact Noted.suggests_ok _ _

theorem readSteps_suggests (notes : Notes) (tokens : List Token) :
    (notes.readSteps count tokens).Suggests := by
  match tokens with
  | [] => exact Noted.suggests_ok _ _
  | ⟨.operand text, p⟩ :: rest => exact Noted.suggests_atWord (by simp) p notes
  | [⟨.operator op phrase, p⟩] => exact Noted.suggests_atWord (by simp) p notes
  | ⟨.operator op phrase, p⟩ :: operand :: rest =>
    rw [readSteps]
    apply readOperandAnd_suggests
    intro after
    exact readSteps_suggests after rest

theorem analyze_suggests (notes : Notes) (tokens : List Token) :
    (notes.analyze count tokens).Suggests := by
  cases tokens with
  | nil =>
    intro cause position suggestion h
    cases h
  | cons first rest =>
    rw [analyze]
    apply readOperandAnd_suggests
    intro after
    exact readSteps_suggests count after rest

/-- Where no step can be read, nothing is noted. -/
theorem notes_readSteps_of_fault (notes : Notes) {first : Token} {rest : List Token}
    (h : Token.faultAt? (first :: rest) 1 ≠ none ∨ rest = []) :
    (notes.readSteps count rest).notes = notes := by
  match rest with
  | [] => rfl
  | ⟨.operand text, p⟩ :: rest => rfl
  | [⟨.operator op phrase, p⟩] => rfl
  | ⟨.operator op phrase, p⟩ :: operand :: rest =>
    simp [Token.faultAt?_one, Part.operatorFault?] at h

theorem exists_operator_of_faultless {first second : Token} {rest : List Token}
    (h : Token.faultAt? (first :: second :: rest) 1 = none) :
    ∃ op phrase p operand later, second = ⟨.operator op phrase, p⟩ ∧ rest = operand :: later := by
  rw [Token.faultAt?_one] at h
  obtain ⟨part, p⟩ := second
  cases part with
  | operand text => simp [Part.operatorFault?] at h
  | operator op phrase =>
    cases rest with
    | nil => simp [Part.operatorFault?] at h
    | cons operand later => exact ⟨op, phrase, p, operand, later, rfl, rfl⟩

/-- Up to where the reader comes, the operands in their places are warned of and nothing else. The
reader goes on by two tokens at a time. -/
theorem readOperandAnd_warnings_to {α : Type} (notes : Notes) (first : Token)
    (rest : List Token) (make : Value → List Step → α) : ∀ n, Token.ReadsTo (first :: rest) n →
    (notes.readOperandAnd count first (readSteps count · rest) make).notes.warnings =
      notes.warnings ++ Token.warningsOf count ((first :: rest).take (n + 1))
  | 0, ⟨_, hend⟩ => by
    obtain ⟨cause, hcause⟩ := Option.ne_none_iff_exists'.mp (hend.resolve_right (by simp))
    obtain ⟨suggestion, herror⟩ := notes.readOperand_fault count hcause
    rw [readOperandAnd_notes, herror]
    exact notes.readOperand_warnings count first
  | 1, ⟨hclear, hend⟩ => by
    obtain ⟨text, v, _, hv, _⟩ := notes.readOperand_ok count (hclear 0 Nat.one_pos)
    have hstop : Token.faultAt? (first :: rest) 1 ≠ none ∨ rest = [] := by simpa using hend
    rw [readOperandAnd_notes, hv]
    simp only
    rw [notes_readSteps_of_fault count _ hstop, notes.readOperand_warnings count first]
    cases rest <;> rfl
  | n + 2, ⟨hclear, hend⟩ => by
    obtain ⟨text, v, _, hv, _⟩ := notes.readOperand_ok count (hclear 0 (by omega))
    rw [readOperandAnd_notes, hv]
    simp only
    cases rest with
    | nil => exact notes.readOperand_warnings count first
    | cons second rest =>
      obtain ⟨op, phrase, p, operand, later, rfl, rfl⟩ :=
        exists_operator_of_faultless (hclear 1 (by omega))
      have hrest : Token.ReadsTo (operand :: later) n := by
        refine ⟨?_, ?_⟩
        · intro j hj
          rw [← hclear (j + 2) (by omega), Token.faultAt?_add_two]
        · rw [Token.faultAt?_add_two] at hend
          simpa using hend
      rw [readSteps, readOperandAnd_warnings_to _ operand later _ n hrest,
        notes.readOperand_warnings count first, List.append_assoc, Token.warningsOf,
        ← List.map_append, ← Token.warnings_cons]
      rfl

theorem analyze_warnings_to (notes : Notes) {tokens : List Token} {n : Nat}
    (h : Token.ReadsTo tokens n) :
    (notes.analyze count tokens).notes.warnings =
      notes.warnings ++ Token.warningsOf count (tokens.take (n + 1)) := by
  cases tokens with
  | nil => exact (List.append_nil _).symm
  | cons first rest => exact readOperandAnd_warnings_to count notes first rest Expression.mk n h

end Notes

theorem Step.exact_injective {a b : Step} (h : a.exact = b.exact) : a = b := by
  obtain ⟨op, v, p⟩ := a
  obtain ⟨op', w, q⟩ := b
  simp only [Step.exact, ExactStep.mk.injEq] at h
  obtain ⟨rfl, hv, rfl⟩ := h
  rw [Value.ext hv]

/-- An expression is known from its exact values. -/
theorem Expression.eq_of_exact {e f : Expression} (hfirst : e.first.toInt = f.first.toInt)
    (hsteps : e.steps.map Step.exact = f.steps.map Step.exact) : e = f := by
  obtain ⟨v, steps⟩ := e
  obtain ⟨w, others⟩ := f
  rw [Expression.mk.injEq]
  exact ⟨Value.ext hfirst, (List.map_inj_right fun _ _ => Step.exact_injective).mp hsteps⟩

namespace Token

theorem Analyzed.analysis {count : Nat → Nat} {tokens : List Token}
    {result : Except Fault Expression} {read : List Warning}
    (h : Analyzed count tokens result read) :
    (Notes.analyze count {} tokens).result = result ∧
      (Notes.analyze count {} tokens).notes.warnings = read := by
  cases h with
  | nothing hnil =>
    subst hnil
    exact ⟨rfl, rfl⟩
  | fault htoken hfault hbefore hread =>
    have hwarnings := Notes.analyze_warnings_to count {} ⟨hbefore, .inl (by simp [hfault])⟩
    obtain ⟨other, suggestion, hother, herror⟩ := Notes.analyze_fault count {} hfault hbefore
    rw [htoken] at hother
    cases hother
    have hsuggestion := Notes.analyze_suggests count {} tokens _ _ suggestion herror
    rw [hwarnings] at hsuggestion
    rw [herror, hsuggestion, hread]
    exact ⟨rfl, hwarnings⟩
  | expression hne hclear hfirst hsteps =>
    have hend : ReadsTo tokens tokens.length := ⟨fun j _ => hclear j, .inr (Nat.le_refl _)⟩
    have hwarnings := Notes.analyze_warnings_to count {} hend
    obtain ⟨f, hf, hfirst', hsteps'⟩ := Notes.analyze_ok count {} hne hclear
    rw [List.take_of_length_le (Nat.le_succ _)] at hwarnings
    rw [hf, Expression.eq_of_exact (hfirst'.trans hfirst.symm) (hsteps'.trans hsteps.symm)]
    exact ⟨rfl, hwarnings⟩

theorem exists_analyzed (count : Nat → Nat) (tokens : List Token) :
    ∃ result read, Analyzed count tokens result read := by
  by_cases hne : tokens = []
  · exact ⟨_, _, .nothing hne⟩
  rcases none_or_first (faultAt? tokens) with hclear | ⟨i, cause, hfault, hbefore⟩
  · obtain ⟨e, _, hfirst, hsteps⟩ := Notes.analyze_ok count {} hne hclear
    exact ⟨_, _, .expression hne hclear hfirst hsteps⟩
  · obtain ⟨token, htoken, _⟩ := Option.bind_eq_some_iff.mp hfault
    exact ⟨_, _, .fault htoken hfault hbefore rfl⟩

end Token

/-- Tokens in any order and at any positions are analyzed as an expression if operands that name
numbers in range alternate with operators, and else give the leftmost fault. The operands in their
places are warned of, up to the fault and including it, whether the positions of the words are
counted exactly, in 64 bits or in any other way. -/
theorem analysis_of_any_tokens (count : Nat → Nat) (tokens : List Token) :
    (∀ result read, (Notes.analyze count {} tokens).result = result ∧
      (Notes.analyze count {} tokens).notes.warnings = read ↔
        Token.Analyzed count tokens result read) ∧
    ((∃ e, (Notes.analyze count {} tokens).result = .ok e) ↔
      Token.Alternates tokens ∧ Token.OperandsRead tokens) := by
  obtain ⟨result, read, h⟩ := Token.exists_analyzed count tokens
  obtain ⟨hresult, hread⟩ := h.analysis
  refine ⟨?_, ?_⟩
  · intro result' read'
    constructor
    · rintro ⟨rfl, rfl⟩
      rw [hresult, hread]
      exact h
    · exact Token.Analyzed.analysis
  · rw [← Token.faultAt?_eq_none_iff, hresult]
    cases h with
    | nothing hnil => simp [hnil]
    | fault htoken hfault hbefore _ =>
      simp only [reduceCtorEq, exists_false, false_iff]
      rintro ⟨_, hclear⟩
      rw [hclear] at hfault
      cases hfault
    | @expression e hne hclear _ _ => exact ⟨fun _ => ⟨hne, hclear⟩, fun _ => ⟨e, rfl⟩⟩

/-- The second of two operands in a row is not read, so there is no warning of its word. -/
example :
    let noted := Notes.analyze wordCount {}
      [⟨.operand "two tree".toList, 5⟩, ⟨.operand "fourty".toList, 0⟩]
    noted.result = .error (.atWord 0 (.missingOperand "fourty".toList)) ∧
      noted.notes.warnings = [⟨"tree".toList, 6, some "three".toList⟩] :=
  ⟨rfl, rfl⟩

/-- A word behind the last position that 64 bits count is warned of at position 0, where the fault
does not look for a suggestion. -/
example :
    let noted := Notes.analyze wordCount {} [⟨.operand "a tree".toList, 0xFFFFFFFFFFFFFFFF⟩]
    noted.result =
        .error (.atWord 0xFFFFFFFFFFFFFFFF (.notANumber "a tree".toList)) ∧
      noted.notes.warnings =
        [⟨['a'], 0xFFFFFFFFFFFFFFFF, none⟩, ⟨"tree".toList, 0, some "three".toList⟩] :=
  ⟨rfl, rfl⟩

end WordArithmetic
