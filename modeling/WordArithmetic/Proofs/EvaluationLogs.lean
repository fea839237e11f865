import WordArithmetic.Proofs.ReductionTraces
import WordArithmetic.Proofs.SkippedWords

namespace WordArithmetic

/-- How an evaluation can end, and what is logged of it behind the tokens: words that are passed
over, steps that are taken and the value that is found. -/
inductive Logged (sentence : Text) :
    Except Fault Answer → List Text → List Application → Option Value → Prop
  | refused {fault : Fault} {skipped : List Text} :
    (Notes.analyze id {} (tokenize sentence)).result = .error fault →
    Logged sentence (.error fault) skipped [] none
  | stopped {e : Expression} {k : Nat} {step : Step} {value : Value} {cause : Fault.Cause}
    {skipped : List Text} {applications : List Application} :
    (Notes.analyze id {} (tokenize sentence)).result = .ok e →
    e.steps[k]? = some step → applications.length = k →
    Trace e.first (e.steps.take k) applications value →
    step.op.apply value step.value = .error cause →
    Logged sentence (.error (.atWord step.position cause)) skipped applications none
  | answered {e : Expression} {answer : Answer} {applications : List Application} :
    (Notes.analyze id {} (tokenize sentence)).result = .ok e →
    Trace e.first e.steps applications answer.value →
    Logged sentence (.ok answer) (answer.warnings.map Warning.word) applications
      (some answer.value)

def Event.kind (event : Event) : Text × Level :=
  (event.target, event.level)

theorem Scanner.log_ofSentence (sentence : Text) :
    (Scanner.ofSentence sentence).log =
      [.tokenized (Text.words sentence).length (tokenize sentence)] := by
  have hwords : (Scanner.ofSentence sentence).words.length = (Text.words sentence).length := by
    rw [Scanner.ofSentence, sentenceWords_eq, List.length_map]
  rw [Scanner.log, hwords]
  rfl

/-- What is logged of a sentence: its tokens, then the words that are passed over, then the steps
that are taken, and then the value if it has one. -/
def logOf (sentence : Text) (skipped : List Text) (applications : List Application)
    (last : Option Value) : List Event :=
  .tokenized (Text.words sentence).length (tokenize sentence) ::
    (skipped.map .skipped ++ applications.map .applied ++
      last.toList.map (.finished (Text.trim sentence)))

theorem kind_logOf (sentence : Text) (skipped : List Text) (applications : List Application)
    (last : Option Value) :
    (logOf sentence skipped applications last).map Event.kind =
      ("wordcalc::lexer".toList, .debug) ::
        (List.replicate skipped.length ("wordcalc::numbers".toList, .trace) ++
          List.replicate applications.length ("wordcalc::evaluator".toList, .trace) ++
          List.replicate last.toList.length ("wordcalc::evaluator".toList, .debug)) := by
  rw [logOf, List.map_cons, List.map_append, List.map_append, List.map_map, List.map_map,
    List.map_map, ← List.map_const', ← List.map_const', ← List.map_const']
  rfl

theorem evaluation_of_fault {sentence : Text} {fault : Fault}
    (h : (Notes.analyze id {} (tokenize sentence)).result = .error fault) :
    evaluation sentence = ⟨.error fault,
      logOf sentence (Notes.analyze id {} (tokenize sentence)).notes.skipped [] none⟩ := by
  have htokens : (Scanner.ofSentence sentence).run.1 = tokenize sentence := rfl
  simp [evaluation, htokens, h, Scanner.log_ofSentence, logOf]

theorem evaluation_of_expression {sentence : Text} {e : Expression}
    (h : (Notes.analyze id {} (tokenize sentence)).result = .ok e) :
    evaluation sentence =
      ⟨e.reduction.result.map (⟨·, (Notes.analyze id {} (tokenize sentence)).notes.warnings⟩),
        logOf sentence (Notes.analyze id {} (tokenize sentence)).notes.skipped
          e.reduction.applications e.reduction.result.toOption⟩ := by
  have htokens : (Scanner.ofSentence sentence).run.1 = tokenize sentence := rfl
  simp only [evaluation, htokens, h, Scanner.log_ofSentence]
  cases e.reduction.result with
  | error fault => simp [logOf, Except.map, Except.toOption]
  | ok value => simp [logOf, Except.map, Except.toOption]

/-- The log of an evaluation tells how it went: the tokens, the words passed over, the steps taken
one on the result of another and the value found. A run that a fault ends has told what came before
the fault. -/
theorem log_traces_the_evaluation (sentence : Text) :
    ∃ skipped applications last,
      (evaluation sentence).log = logOf sentence skipped applications last ∧
      (evaluation sentence).log.map Event.kind =
        ("wordcalc::lexer".toList, .debug) ::
          (List.replicate skipped.length ("wordcalc::numbers".toList, .trace) ++
            List.replicate applications.length ("wordcalc::evaluator".toList, .trace) ++
            List.replicate last.toList.length ("wordcalc::evaluator".toList, .debug)) ∧
      skipped <+: Token.passedOver (tokenize sentence) ∧
      Logged sentence (evaluate sentence) skipped applications last := by
  rw [evaluate]
  have hpart := (Notes.analyze_passes {} (tokenize sentence)).part
  cases h : (Notes.analyze id {} (tokenize sentence)).result with
  | error fault =>
    rw [evaluation_of_fault h]
    exact ⟨_, _, _, rfl, kind_logOf .., hpart, .refused h⟩
  | ok e =>
    rw [evaluation_of_expression h]
    refine ⟨_, _, _, rfl, kind_logOf .., hpart, ?_⟩
    have hreduced := Reduction.reduced e.first e.steps
    rw [Expression.reduction]
    generalize Reduction.ofSteps e.first e.steps = reduction at hreduced ⊢
    cases hreduced with
    | through htrace =>
      rw [Notes.analyze_skipped h]
      exact .answered h htrace
    | stopped hk htrace hfault => exact .stopped h hk (htrace.length_of_take hk) htrace hfault

/-- The division fails, and the addition before it has been logged. -/
theorem log_of_a_run_cut_short :
    let sentence := "Ten plus about five divided by zero".toList
    let ten : Value := ⟨10, by decide, by decide⟩
    let five : Value := ⟨5, by decide, by decide⟩
    evaluate sentence = .error (.atWord 6 .divisionByZero) ∧
      ∃ skipped applications value, (evaluation sentence).log =
          logOf sentence skipped applications none ∧
        skipped <+: ["about".toList] ∧ Trace ten [⟨.add, five, 2⟩] applications value := by
  intro sentence ten five
  have htokens : tokenize sentence = [⟨.operand "ten".toList, 0⟩,
      ⟨.operator .add "plus".toList, 1⟩, ⟨.operand "about five".toList, 2⟩,
      ⟨.operator .divide "divided by".toList, 4⟩, ⟨.operand "zero".toList, 6⟩] := by
    decide +kernel
  have hanalysis : (Notes.analyze id {} (tokenize sentence)).result =
      .ok ⟨ten, [⟨.add, five, 2⟩, ⟨.divide, .zero, 6⟩]⟩ := by
    rw [htokens]
    rfl
  have hfault : evaluate sentence = .error (.atWord 6 .divisionByZero) := by
    rw [evaluate_eq, hanalysis]
    rfl
  obtain ⟨skipped, applications, last, hlog, _, hpart, hlogged⟩ :=
    log_traces_the_evaluation sentence
  have hpassed : Token.passedOver (tokenize sentence) = ["about".toList] := by
    rw [htokens]
    decide
  rw [hpassed] at hpart
  refine ⟨hfault, ?_⟩
  generalize evaluate sentence = result at hfault hlogged
  cases hlogged with
  | refused h =>
    rw [hanalysis] at h
    cases h
  | answered => cases hfault
  | @stopped e k step value cause _ _ h hk hlength htrace happly =>
    rw [hanalysis] at h
    cases h
    have hposition : step.position = 6 :=
      Option.some.inj (congrArg Fault.position (Except.error.inj hfault))
    match k with
    | 0 =>
      cases hk
      cases hposition
    | 1 => exact ⟨skipped, applications, value, hlog, hpart, htrace⟩
    | k + 2 => cases hk

end WordArithmetic
