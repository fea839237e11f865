import WordArithmetic.Text.Basic

namespace WordArithmetic

inductive Operator where
  | add
  | subtract
  | multiply
  | divide
deriving DecidableEq

namespace Operator

def symbol : Operator → Char
  | .add => '+'
  | .subtract => '-'
  | .multiply => '*'
  | .divide => '/'

/-- No phrase is the beginning of another, so at most one of them starts at a word. -/
def phrases : List (Text × Operator) := [
  ("plus".toList, .add), ("minus".toList, .subtract), ("multiplied by".toList, .multiply),
  ("times".toList, .multiply), ("divided by".toList, .divide)]

def ofPhrase? (phrase : Text) : Option Operator :=
  phrases.lookup phrase

def leading? (words : List Text) : Option (Text × Operator) :=
  phrases.find? fun (phrase, _) => (Text.words phrase).isPrefixOf words

end Operator

end WordArithmetic
