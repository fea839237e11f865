import WordArithmetic.Text.Basic

namespace WordArithmetic

inductive Fault.Cause where
  | nothing
  | missingOperand (before : Text)
  | trailingOperator (phrase : Text)
  | notANumber (text : Text)
  | divisionByZero
  | outOfRange
deriving DecidableEq

/-- The position counts the words of the sentence before the place of the fault. -/
structure Fault where
  cause : Fault.Cause
  position : Option Nat
  suggestion : Option Text
deriving DecidableEq

namespace Fault

def Cause.message : Cause → Text
  | .nothing => "there is nothing to evaluate".toList
  | .missingOperand before => "expected a number before '".toList ++ before ++ ['\'']
  | .trailingOperator phrase => "expected a number after '".toList ++ phrase ++ ['\'']
  | .notANumber text => '\'' :: text ++ "' is not a number".toList
  | .divisionByZero => "division by zero".toList
  | .outOfRange => "the result is too large".toList

def atWord (position : Nat) (cause : Cause) : Fault :=
  ⟨cause, some position, none⟩

def message (fault : Fault) : Text :=
  "invalid expression: ".toList ++ fault.cause.message

def styled (code : String) (text : Text) : Text :=
  "\x1b[".toList ++ code.toList ++ ['m'] ++ text ++ "\x1b[0m".toList

/-- The sentence with single spaces, and carets under the word at the position. Columns are counted
in bytes of the UTF-8 encoding. -/
def pointer (words : List Text) (position : Nat) : List Text :=
  match words[position]? with
  | none => []
  | some word =>
    let margin := "  ".toList ++ styled "1;34" ['|'] ++ [' ']
    let column := Text.byteLength ((words.take position).flatMap (· ++ [' ']))
    [margin ++ Text.unwords words,
      margin ++ List.replicate column ' ' ++
        styled "1;31" (List.replicate (max (Text.byteLength word) 1) '^')]

def help (suggestion : Text) : Text :=
  "  ".toList ++ styled "1;32" "help".toList ++ ": did you mean `".toList ++
    styled "1;33" suggestion ++ "`?".toList

def reportLines (fault : Fault) (sentence : Text) : List Text :=
  [styled "1;31" "error".toList ++ ": ".toList ++ styled "1" fault.message] ++
    (fault.position.map (pointer (Text.words sentence))).getD [] ++
    (fault.suggestion.map help).toList

def report (fault : Fault) (sentence : Text) : Text :=
  Text.unlines (fault.reportLines sentence)

end Fault

end WordArithmetic
