import WordArithmetic.Proofs.CommandOutcomes
import WordArithmetic.Proofs.SentenceMeaning

namespace WordArithmetic

theorem Numeral.valueOf_eq_of_words {t u : Text} (h : Text.words t = Text.words u) :
    valueOf t = valueOf u := by
  have hphrase : phraseWords t = phraseWords u := by
    rw [phraseWords_eq_flatMap, h, ← phraseWords_eq_flatMap]
  rw [valueOf, valueOf, read, read, hphrase]

/-- The words of a sentence decide what comes of it, and the blanks between them do not matter. -/
theorem evaluate_eq_of_words {t u : Text} (h : Text.words t = Text.words u) :
    evaluate t = evaluate u := by
  rw [evaluate_eq, evaluate_eq, tokenize, tokenize, sentenceWords_eq, sentenceWords_eq, h]

theorem Fault.reportLines_eq_of_words (fault : Fault) {t u : Text}
    (h : Text.words t = Text.words u) : fault.reportLines t = fault.reportLines u := by
  rw [reportLines, reportLines, h]

namespace CommandLine

/-- Command lines that set the same, and whose word arguments have the same words in the same order,
whatever arguments these are quoted together in. -/
structure SameRequest (ps ps' : List Piece) : Prop where
  parse : .parse ∈ ps ↔ .parse ∈ ps'
  raw : .raw ∈ ps ↔ .raw ∈ ps'
  verbose : .verbose ∈ ps ↔ .verbose ∈ ps'
  literals : (ps.filterMap Piece.literal?).getLast? = (ps'.filterMap Piece.literal?).getLast?
  separators :
    (ps.filterMap Piece.separator?).getLast? = (ps'.filterMap Piece.separator?).getLast?
  words : (ps.filterMap Piece.word?).flatMap Text.words =
    (ps'.filterMap Piece.word?).flatMap Text.words

theorem SameRequest.words_input {ps ps' : List Piece} (h : SameRequest ps ps') :
    Text.words (input ps) = Text.words (input ps') := by
  rw [input, input, Text.words_unwords, Text.words_unwords, h.words]

theorem SameRequest.settings {ps ps' : List Piece} (h : SameRequest ps ps')
    (environment : Environment) :
    settings environment (optionsOf ps) = settings environment (optionsOf ps') := by
  simp only [CommandLine.settings, optionsOf_eq, h.separators, h.verbose]

theorem SameRequest.render {ps ps' : List Piece} (h : SameRequest ps ps') (s : Settings) :
    render s (optionsOf ps) = render s (optionsOf ps') := by
  funext v
  simp only [CommandLine.render, optionsOf_eq, h.raw]

/-- Nothing but what is logged depends on the verbosity. -/
theorem perform_quiet (line : Event → Text) (s : Settings) (options : Options) :
    (perform line s options).status = (perform line { s with verbose := false } options).status ∧
      (perform line s options).output =
        (perform line { s with verbose := false } options).output := by
  cases hformat : options.format with
  | some literal =>
    simp only [perform, hformat]
    exact ⟨rfl, rfl⟩
  | none =>
    by_cases hblank : Text.trim (Text.unwords options.words) = []
    · simp only [perform, hformat, if_pos hblank, and_self]
    by_cases hparse : options.parse = true
    · simp only [perform, hformat, if_neg hblank, if_pos hparse]
      exact ⟨rfl, rfl⟩
    · simp only [perform, hformat, if_neg hblank, if_neg hparse, evaluateSentence]
      cases (evaluation (Text.unwords options.words)).result <;> exact ⟨rfl, rfl⟩

theorem evaluateSentence_quiet {line : Event → Text} {s : Settings} (hquiet : s.verbose = false)
    (options : Options) (sentence : Text) :
    evaluateSentence line s options sentence =
      match evaluate sentence with
      | .ok answer => .success (render s options answer.value) []
      | .error fault => .failure (fault.reportLines sentence) := by
  simp only [evaluateSentence, logLines, hquiet, evaluate]
  cases (evaluation sentence).result <;> rfl

theorem perform_of_sameRequest (line : Event → Text) (s : Settings) (hquiet : s.verbose = false)
    {ps ps' : List Piece} (h : SameRequest ps ps') :
    perform line s (optionsOf ps) = perform line s (optionsOf ps') := by
  have hwords := h.words_input
  have hblank : Text.trim (input ps) = [] ↔ Text.trim (input ps') = [] := by
    rw [Text.trim_eq_nil_iff, Text.trim_eq_nil_iff, ← Text.words_eq_nil_iff,
      ← Text.words_eq_nil_iff, hwords]
  rw [perform_optionsOf, perform_optionsOf, h.literals]
  cases (ps'.filterMap Piece.literal?).getLast? with
  | some literal => simp only [formatValue, h.render]
  | none =>
    simp only [hblank, h.parse, parsePhrase, logLines, hquiet, evaluateSentence_quiet hquiet,
      h.render, Numeral.valueOf_eq_of_words hwords, evaluate_eq_of_words hwords,
      Fault.reportLines_eq_of_words _ hwords]
    rfl

/-- Command lines that ask for the same come to the same, however their options stand among the words
and are repeated, and however the words are quoted. Only a log may tell them apart. -/
theorem order_and_quoting_never_matter (environment : Environment)
    {arguments arguments' : List Text} (h : Accepted (pieces arguments))
    (h' : Accepted (pieces arguments'))
    (hsame : SameRequest (pieces arguments) (pieces arguments')) :
    (run environment arguments).status = (run environment arguments').status ∧
      (run environment arguments).output = (run environment arguments').output ∧
      ((settings environment (optionsOf (pieces arguments))).verbose = false →
        (run environment arguments).errors = (run environment arguments').errors) := by
  rw [run_of_accepted environment h, run_of_accepted environment h', ← hsame.settings]
  generalize settings environment (optionsOf (pieces arguments)) = s
  have hquiet := perform_of_sameRequest environment.line { s with verbose := false } rfl hsame
  obtain ⟨hstatus, houtput⟩ := perform_quiet environment.line s (optionsOf (pieces arguments))
  obtain ⟨hstatus', houtput'⟩ := perform_quiet environment.line s (optionsOf (pieces arguments'))
  refine ⟨?_, ?_, ?_⟩
  · rw [hstatus, hstatus', hquiet]
  · rw [houtput, houtput', hquiet]
  · intro hverbose
    rw [perform_of_sameRequest _ s hverbose hsame]

/-- A misspelled sentence in two arguments around the options, and in three between them. -/
theorem misspelled_in_two_orders :
    let arguments := ["two plus", "--raw", "--separator", "space", "tree"].map String.toList
    let arguments' := ["--separator", "_", "two", "", "\tplus  tree ", "--separator", " ", "--raw",
      "--raw"].map String.toList
    Accepted (pieces arguments) ∧ Accepted (pieces arguments') ∧
      SameRequest (pieces arguments) (pieces arguments') ∧
      (run {} arguments).status = (run {} arguments').status ∧
      (run {} arguments).output = (run {} arguments').output ∧
      (run {} arguments).errors = (run {} arguments').errors := by
  intro arguments arguments'
  have hpieces : pieces arguments = [.word "two plus".toList, .raw,
      .separator (some "space".toList), .word "tree".toList] := rfl
  have hpieces' : pieces arguments' = [.separator (some "_".toList), .word "two".toList, .word [],
      .word "\tplus  tree ".toList, .separator (some " ".toList), .raw, .raw] := rfl
  have h : Accepted (pieces arguments) := accepted_of_readAll rfl
  have h' : Accepted (pieces arguments') := accepted_of_readAll rfl
  have hsame : SameRequest (pieces arguments) (pieces arguments') := by
    rw [hpieces, hpieces']
    exact ⟨by simp, by simp, by simp, rfl, rfl, by decide⟩
  obtain ⟨hstatus, houtput, herrors⟩ := order_and_quoting_never_matter {} h h' hsame
  exact ⟨h, h', hsame, hstatus, houtput, herrors (by decide)⟩

end CommandLine

end WordArithmetic
