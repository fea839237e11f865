import WordArithmetic.Main
import WordArithmetic.Proofs.WrittenExpressions
import WordArithmetic.Proofs.SpelledNumbers
import WordArithmetic.Proofs.FaultPlaces
import WordArithmetic.Proofs.LongerSentences
import WordArithmetic.Proofs.CommandOutcomes
import WordArithmetic.Proofs.ArgumentOrder
import WordArithmetic.Proofs.SettingPrecedence
import WordArithmetic.Proofs.SingleRow
import WordArithmetic.Proofs.NearestWords
import WordArithmetic.Proofs.OperandSuggestions
import WordArithmetic.Proofs.DigitGroups
import WordArithmetic.Proofs.ScaleGroups
import WordArithmetic.Proofs.LonePhrases
import WordArithmetic.Proofs.SettingLines
import WordArithmetic.Proofs.EvaluationLogs
import WordArithmetic.Proofs.LongerPhrases
import WordArithmetic.Proofs.CaretColumns
import WordArithmetic.Proofs.HyphenatedSentences
