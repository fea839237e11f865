import WordArithmetic.Expression.Reduction
import WordArithmetic.Numeral.Reading
import WordArithmetic.Sentence.Token
import WordArithmetic.Text.Quoted
import WordArithmetic.Value.Decimal

namespace WordArithmetic

def Operator.name : Operator → Text
  | .add => "Add".toList
  | .subtract => "Subtract".toList
  | .multiply => "Multiply".toList
  | .divide => "Divide".toList

def Part.listing : Part → Text
  | .operand text => "Operand(".toList ++ Text.quoted text ++ [')']
  | .operator op phrase =>
    "Operator ".toList ++ '{' :: " op: ".toList ++ op.name ++ ", phrase: ".toList ++
      Text.quoted phrase ++ [' ', '}']

def Token.listing (token : Token) : Text :=
  "TokenInfo ".toList ++ '{' :: " token: ".toList ++ token.part.listing ++ ", word: ".toList ++
    Text.ofNat token.position ++ [' ', '}']

def Token.listingOf (tokens : List Token) : Text :=
  ['['] ++ ", ".toList.intercalate (tokens.map listing) ++ [']']

inductive Event where
  | tokenized (words : Nat) (tokens : List Token)
  | skipped (word : Text)
  | applied (application : Application)
  | finished (sentence : Text) (value : Value)
deriving DecidableEq

inductive Level where
  | debug
  | trace
deriving DecidableEq

def Level.name : Level → Text
  | .debug => "DEBUG".toList
  | .trace => "TRACE".toList

namespace Event

def level : Event → Level
  | .tokenized .. | .finished .. => .debug
  | .skipped .. | .applied .. => .trace

def target : Event → Text
  | .tokenized .. => "wordcalc::lexer".toList
  | .skipped .. => "wordcalc::numbers".toList
  | .applied .. | .finished .. => "wordcalc::evaluator".toList

def message : Event → Text
  | .tokenized words tokens =>
    "tokenized ".toList ++ Text.ofNat words ++ " words into ".toList ++ Token.listingOf tokens
  | .skipped word => "ignoring non-number word '".toList ++ word ++ ['\'']
  | .applied a =>
    Text.unwords [a.left.text, [a.op.symbol], a.right.text, ['='], a.result.text]
  | .finished sentence value => '\'' :: sentence ++ "' = ".toList ++ value.text

end Event

def Numeral.Reading.log (reading : Numeral.Reading) : List Event :=
  reading.skipped.map .skipped

def Scanner.log (s : Scanner) : List Event :=
  [.tokenized s.words.length s.run.1]

end WordArithmetic
