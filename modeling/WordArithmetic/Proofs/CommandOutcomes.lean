import WordArithmetic.CommandLine.Run
import WordArithmetic.Proofs.CommandPieces
import WordArithmetic.Proofs.Literals
import WordArithmetic.Proofs.SettingSources
import WordArithmetic.Proofs.Words

namespace WordArithmetic.CommandLine

def input (ps : List Piece) : Text :=
  Text.unwords (ps.filterMap Piece.word?)

/-- A command line without arguments comes to what one without words does. -/
theorem run_of_accepted (environment : Environment) {arguments : List Text}
    (h : Accepted (pieces arguments)) :
    run environment arguments =
      perform environment.line (settings environment (optionsOf (pieces arguments)))
        (optionsOf (pieces arguments)) := by
  cases arguments with
  | nil => rfl
  | cons text rest =>
    rw [run, if_neg (List.cons_ne_nil text rest), readAll_eq, mapM_read_of_accepted h]
    rfl

theorem perform_optionsOf (line : Event → Text) (s : Settings) (ps : List Piece) :
    perform line s (optionsOf ps) =
      match (ps.filterMap Piece.literal?).getLast? with
      | some literal => formatValue s (optionsOf ps) literal
      | none =>
        if Text.trim (input ps) = [] then .failure usage
        else if .parse ∈ ps then parsePhrase line s (optionsOf ps) (input ps)
        else evaluateSentence line s (optionsOf ps) (input ps) := by
  have hformat := congrArg Options.format (optionsOf_eq ps)
  have hparse := congrArg Options.parse (optionsOf_eq ps)
  have hwords := congrArg Options.words (optionsOf_eq ps)
  simp only [perform, hformat, hparse, hwords, input, decide_eq_true_eq]
  rfl

end WordArithmetic.CommandLine
