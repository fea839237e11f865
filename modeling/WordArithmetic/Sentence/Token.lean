import WordArithmetic.Sentence.Operator
import WordArithmetic.Text.Lowercase

namespace WordArithmetic

/-- What a stretch of a sentence is: a phrase that should name a number, or an operator in words. -/
inductive Part where
  | operand (text : Text)
  | operator (op : Operator) (phrase : Text)
deriving DecidableEq

structure Token where
  part : Part
  position : Nat
deriving DecidableEq

namespace Token

/-- A word before an operand belongs to it. -/
def attach (word : Text) (position : Nat) : List Token → List Token
  | ⟨.operand text, _⟩ :: rest => ⟨.operand (Text.unwords [word, text]), position⟩ :: rest
  | tokens => ⟨.operand word, position⟩ :: tokens

def ofWords (position : Nat) : List Text → List Token
  | [] => []
  | word :: rest =>
    match Operator.leading? (word :: rest) with
    | none => attach word position (ofWords (position + 1) rest)
    | some (phrase, op) =>
      let more := (Text.words phrase).length - 1
      ⟨.operator op phrase, position⟩ :: ofWords (position + 1 + more) (rest.drop more)
termination_by words => words.length

end Token

def sentenceWords (sentence : Text) : List Text :=
  Text.words (Text.lowercase (Text.trim sentence))

def tokenize (sentence : Text) : List Token :=
  Token.ofWords 0 (sentenceWords sentence)

structure Scanner where
  words : List Text
  position : Nat
deriving DecidableEq

def Scanner.ofSentence (sentence : Text) : Scanner :=
  ⟨sentenceWords sentence, 0⟩

def Scanner.run (s : Scanner) : List Token × Scanner :=
  (Token.ofWords s.position (s.words.drop s.position), { s with position := s.words.length })

end WordArithmetic
