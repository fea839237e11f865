import WordArithmetic.Proofs.Sessions
import WordArithmetic.Proofs.Warnings

namespace WordArithmetic

namespace Warning

theorem place_le_of_mem_ofOperand {text : Text} {place : Nat} {warning : Warning}
    (h : warning ∈ ofOperand text place) : place ≤ warning.position := by
  obtain ⟨⟨word, q⟩, hm, hw⟩ := List.mem_flatMap.mp h
  obtain ⟨_, _, rfl⟩ := List.mem_map.mp hw
  exact List.le_snd_of_mem_zipIdx hm

/-- Each word that an operand passes over gets the suggestion that it would get anywhere. -/
theorem suggestion_ofOperand (text : Text) (place : Nat) :
    (ofOperand text place).map Warning.suggestion =
      (Numeral.unknownWords text).map Correction.suggestion := by
  have hwords := Token.word_warnings [⟨.operand text, place⟩]
  rw [Token.warnings_operand, Token.operands, List.flatMap_singleton,
    List.flatMap_singleton] at hwords
  rw [← hwords, List.map_map]
  apply List.map_congr_left
  intro warning hm
  obtain ⟨_, _, hw⟩ := List.mem_flatMap.mp hm
  obtain ⟨_, _, rfl⟩ := List.mem_map.mp hw
  rfl

end Warning

/-- What is noted before an operand is noted of words before it. -/
theorem Token.Decomposition.warnings_before {start place : Nat} {before after : List Token}
    {text : Text} (h : Decomposition start (before ++ ⟨.operand text, place⟩ :: after)) :
    ∀ warning ∈ warnings before, warning.position < place := by
  intro warning hm
  have hincrease := h.places_increase
  rw [operandWords, List.flatMap_append, List.flatMap_cons] at hincrease
  obtain ⟨⟨w, q⟩, hplaced, hw⟩ := List.mem_flatMap.mp hm
  obtain ⟨_, _, rfl⟩ := List.mem_map.mp hw
  have hne : Text.words text ≠ [] :=
    h.words_ne_nil (List.mem_append_right before (List.mem_cons_self ..))
  obtain ⟨v, vs, hwords⟩ := List.exists_cons_of_ne_nil hne
  refine (List.pairwise_append.mp hincrease).2.2 (w, q) hplaced (v, place) ?_
  simp [hwords]

namespace Notes

/-- The last warning of the operand decides. Where it has none, the warnings since the beginning of
the sentence stand before it, and one from earlier on may be found. -/
theorem suggestionFrom_append {notes : Notes} {stale before own : List Warning} {place : Nat}
    (h : notes.warnings = stale ++ (before ++ own))
    (hbefore : ∀ warning ∈ before, warning.position < place)
    (hown : ∀ warning ∈ own, place ≤ warning.position) :
    notes.suggestionFrom place =
      (own.map Warning.suggestion).getLast?.getD (suggestionFrom ⟨stale, []⟩ place) := by
  have hskip : before.reverse.find? (place ≤ ·.position) = none := by
    rw [List.find?_eq_none]
    intro warning hm
    have := hbefore warning (List.mem_reverse.mp hm)
    simp; omega
  have hlast : own.reverse.find? (place ≤ ·.position) = own.getLast? := by
    rw [← List.head?_reverse, ← List.head?_filter, List.filter_eq_self.mpr]
    intro warning hm
    simpa using hown warning (List.mem_reverse.mp hm)
  rw [suggestionFrom, suggestionFrom, h, List.reverse_append, List.reverse_append,
    List.find?_append, List.find?_append, hskip, hlast, Option.or_none, List.getLast?_map]
  cases own.getLast? with
  | none => rfl
  | some warning => rfl

/-- Reading came to its end at an operand that names no number. -/
def Misread (earlier last : Notes) (tokens : List Token) (text : Text) (fault : Fault) : Prop :=
  ∃ before place after, tokens = before ++ ⟨.operand text, place⟩ :: after ∧
    fault.position = some place ∧ fault.suggestion = last.suggestionFrom place ∧
    last.warnings =
      earlier.warnings ++ (Token.warnings before ++ Warning.ofOperand text place)

theorem Misread.cons {earlier middle last : Notes} {token : Token} {tokens : List Token}
    {text : Text} {fault : Fault} (h : Misread middle last tokens text fault)
    (hmiddle : middle.warnings = earlier.warnings ++ Token.warnings [token]) :
    Misread earlier last (token :: tokens) text fault := by
  obtain ⟨before, place, after, rfl, hposition, hsuggestion, hlast⟩ := h
  refine ⟨token :: before, place, after, rfl, hposition, hsuggestion, ?_⟩
  rw [hlast, hmiddle, Token.warnings_cons token before, List.append_assoc, List.append_assoc]

variable {notes : Notes} {text : Text} {fault : Fault}

theorem readOperand_misread {token : Token} (h : (notes.readOperand id token).result = .error fault)
    (hcause : fault.cause = .notANumber text) (rest : List Token) :
    Misread notes (notes.readOperand id token).notes (token :: rest) text fault := by
  have hwarnings := notes.readOperand_warnings id token
  rw [Warning.map_counted_id] at hwarnings
  obtain ⟨part, place⟩ := token
  cases part with
  | operator op phrase =>
    cases h
    simp [Fault.atWord] at hcause
  | operand other =>
    rw [Token.warnings_operand] at hwarnings
    simp only [readOperand] at h hwarnings ⊢
    split at h
    · split at h
      · cases h
      · cases h
        simp [Fault.atWord] at hcause
    · rename_i hnamed
      cases h
      cases hcause
      rw [if_neg hnamed] at hwarnings ⊢
      exact ⟨[], place, rest, rfl, rfl, rfl, hwarnings⟩

/-- An operand and the steps behind it come to an end at the operand or within the steps. -/
theorem readOperandAnd_misread {α : Type} {readRest : Notes → Noted (List Step)} {operand : Token}
    {rest : List Token}
    (hrest : ∀ middle : Notes, (readRest middle).result = .error fault →
      Misread middle (readRest middle).notes rest text fault)
    {make : Value → List Step → α}
    (h : (notes.readOperandAnd id operand readRest make).result = .error fault)
    (hcause : fault.cause = .notANumber text) :
    Misread notes (notes.readOperandAnd id operand readRest make).notes (operand :: rest) text
      fault := by
  rw [readOperandAnd_result] at h
  rw [readOperandAnd_notes]
  cases hfirst : (notes.readOperand id operand).result with
  | error other =>
    rw [hfirst] at h
    cases h
    exact readOperand_misread hfirst hcause rest
  | ok v =>
    rw [hfirst, Except.bind] at h
    cases hsteps : (readRest (notes.readOperand id operand).notes).result with
    | ok steps =>
      rw [hsteps] at h
      cases h
    | error other =>
      rw [hsteps] at h
      cases h
      have hwarnings := notes.readOperand_warnings id operand
      rw [Warning.map_counted_id] at hwarnings
      exact (hrest _ hsteps).cons hwarnings

theorem readSteps_misread (notes : Notes) {tokens : List Token}
    (h : (notes.readSteps id tokens).result = .error fault)
    (hcause : fault.cause = .notANumber text) :
    Misread notes (notes.readSteps id tokens).notes tokens text fault := by
  match tokens with
  | [] => cases h
  | ⟨.operand other, p⟩ :: rest =>
    cases h
    simp [Fault.atWord] at hcause
  | [⟨.operator op phrase, p⟩] =>
    cases h
    simp [Fault.atWord] at hcause
  | ⟨.operator op phrase, p⟩ :: operand :: rest =>
    have hoperator : notes.warnings = notes.warnings ++ Token.warnings [⟨.operator op phrase, p⟩] :=
      (List.append_nil _).symm
    rw [readSteps] at h ⊢
    refine Misread.cons (readOperandAnd_misread ?_ h hcause) hoperator
    intro middle hmiddle
    exact readSteps_misread middle hmiddle hcause

theorem analyze_misread {tokens : List Token}
    (h : (notes.analyze id tokens).result = .error fault)
    (hcause : fault.cause = .notANumber text) :
    Misread notes (notes.analyze id tokens).notes tokens text fault := by
  cases tokens with
  | nil =>
    cases h
    cases hcause
  | cons first rest =>
    rw [analyze] at h ⊢
    refine readOperandAnd_misread ?_ h hcause
    intro middle hmiddle
    exact readSteps_misread middle hmiddle hcause

/-- The suggestion for an operand that names no number is that of the last word it passes over.
For an operand that passes over none, a warning that was noted before the sentence may supply it. -/
theorem analyze_suggestion {sentence : Text}
    (h : (notes.analyze id (tokenize sentence)).result = .error fault)
    (hcause : fault.cause = .notANumber text) :
    ∃ place, fault.position = some place ∧
      fault.suggestion = ((Numeral.unknownWords text).getLast?.map Correction.suggestion).getD
        (notes.suggestionFrom place) := by
  obtain ⟨before, place, after, htokens, hposition, hsuggestion, hwarnings⟩ :=
    analyze_misread h hcause
  have hd := (Token.tokenize_decomposition sentence).1
  rw [htokens] at hd
  refine ⟨place, hposition, ?_⟩
  rw [hsuggestion, suggestionFrom_append hwarnings hd.warnings_before
    (fun warning hm => Warning.place_le_of_mem_ofOperand hm), Warning.suggestion_ofOperand,
    List.getLast?_map]
  rfl

end Notes

/-- The suggestion for an operand that names no number is that of the last word it passes over, and
then it is the one of a fresh analysis. Where the operand passes over no word, so that a fresh
analysis suggests nothing, the last of the earlier warnings that stand as far as the operand is
taken for its own, and only such a warning can make a difference. -/
theorem suggestion_of_operand_or_stale {notes : Notes} {sentence text : Text} {fault : Fault}
    (h : (notes.analyze id (tokenize sentence)).result = .error fault)
    (hcause : fault.cause = .notANumber text) :
    ∃ place, fault.position = some place ∧
      (∀ w, (Numeral.unknownWords text).getLast? = some w →
        fault.suggestion = Correction.suggestion w) ∧
      (Numeral.unknownWords text = [] → fault.suggestion = notes.suggestionFrom place ∧
        (Notes.analyze id {} (tokenize sentence)).result =
          .error { fault with suggestion := none }) ∧
      (Numeral.unknownWords text ≠ [] ∨ (∀ warning ∈ notes.warnings, warning.position < place) →
        (Notes.analyze id {} (tokenize sentence)).result = .error fault) := by
  obtain ⟨place, hposition, hsuggestion⟩ := Notes.analyze_suggestion h hcause
  obtain ⟨cause, position, suggestion⟩ := fault
  cases hcause
  cases hposition
  obtain ⟨fresh, hfresh⟩ :=
    (notes.analyze_follows id (tokenize sentence)).result.error_iff.mp ⟨_, h⟩
  obtain ⟨_, hplace, hsame⟩ := Notes.analyze_suggestion hfresh rfl
  cases hplace
  have hnothing : Notes.suggestionFrom {} place = none := rfl
  rw [hnothing] at hsame
  change suggestion = _ at hsuggestion
  change fresh = _ at hsame
  refine ⟨place, rfl, ?_, ?_, ?_⟩
  · intro w hw
    rw [hsuggestion, hw]
    rfl
  · intro hnone
    rw [hnone] at hsuggestion hsame
    refine ⟨hsuggestion, ?_⟩
    rw [hfresh, hsame]
    rfl
  · intro hown
    rw [hfresh, hsame, hsuggestion]
    rcases hown with hne | hearlier
    · rw [List.getLast?_eq_some_getLast hne]
      rfl
    · have hstale : notes.suggestionFrom place = none := by
        rw [Notes.suggestionFrom, List.find?_eq_none.mpr]
        · rfl
        · intro warning hm
          have := hearlier warning (List.mem_reverse.mp hm)
          simp; omega
      rw [hstale]

/-- The tokens of a sentence with a misspelled word, and of one that is a filler only. -/
theorem tokens_of_misspelled_and_filler :
    tokenize "one two tree plus four".toList = [⟨.operand "one two tree".toList, 0⟩,
        ⟨.operator .add "plus".toList, 3⟩, ⟨.operand "four".toList, 4⟩] ∧
      tokenize "and".toList = [⟨.operand "and".toList, 0⟩] := by
  decide +kernel

/-- A filler says nothing that could be misspelled, and still gets the suggestion for the word of
the sentence before. -/
theorem filler_gets_stale_suggestion :
    let notes := (Notes.analyze id {} (tokenize "one two tree plus four".toList)).notes
    let fault : Fault := ⟨.notANumber "and".toList, some 0, some "three".toList⟩
    (notes.analyze id (tokenize "and".toList)).result = .error fault ∧
      notes.suggestionFrom 0 = some "three".toList ∧
      (Notes.analyze id {} (tokenize "and".toList)).result =
        .error { fault with suggestion := none } := by
  intro notes fault
  obtain ⟨hearlier, hfiller⟩ := tokens_of_misspelled_and_filler
  have h : (notes.analyze id (tokenize "and".toList)).result = .error fault := by
    rw [hfiller]
    simp only [notes, hearlier]
    rfl
  obtain ⟨place, hplace, _, hstale, _⟩ := suggestion_of_operand_or_stale h rfl
  cases hplace
  obtain ⟨hsuggestion, hfresh⟩ := hstale (by decide +kernel)
  exact ⟨h, hsuggestion.symm, hfresh⟩

/-- Two sessions that differ only in what was analyzed before report different suggestions. -/
theorem suggestions_depend_on_history :
    let earlier := Request.analyze (tokenize "one two tree plus four".toList)
    let filler := Request.analyze (tokenize "and".toList)
    ((Notes.session {} [earlier, filler])[1]?.bind Prod.fst =
        some (.error ⟨.notANumber "and".toList, some 0, some "three".toList⟩)) ∧
      ((Notes.session {} [filler])[0]?.bind Prod.fst =
        some (.error ⟨.notANumber "and".toList, some 0, none⟩)) := by
  obtain ⟨hearlier, hfiller⟩ := tokens_of_misspelled_and_filler
  rw [hearlier, hfiller]
  exact ⟨rfl, rfl⟩

end WordArithmetic
