import WordArithmetic.Expression.Analysis
import WordArithmetic.Log

namespace WordArithmetic

structure Answer where
  value : Value
  warnings : List Warning
deriving DecidableEq

structure Evaluation where
  result : Except Fault Answer
  log : List Event

/-- No sentence has more words than 64 bits count, so the count of its words is exact. -/
def evaluation (sentence : Text) : Evaluation :=
  let scanner := Scanner.ofSentence sentence
  let analysis := Notes.analyze id {} scanner.run.1
  let read := scanner.log ++ analysis.notes.skipped.map .skipped
  match analysis.result with
  | .error fault => ⟨.error fault, read⟩
  | .ok expression =>
    let reduction := expression.reduction
    let log := read ++ reduction.applications.map .applied
    match reduction.result with
    | .error fault => ⟨.error fault, log⟩
    | .ok value =>
      ⟨.ok ⟨value, analysis.notes.warnings⟩, log ++ [.finished (Text.trim sentence) value]⟩

def evaluate (sentence : Text) : Except Fault Answer :=
  (evaluation sentence).result

def calculate (sentence : Text) : Except Fault Value :=
  (evaluate sentence).map Answer.value

end WordArithmetic
