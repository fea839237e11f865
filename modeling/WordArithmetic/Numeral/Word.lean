import WordArithmetic.Text.Basic

namespace WordArithmetic

/-- What a word contributes to a number phrase. -/
inductive NumberWord where
  | amount (n : Nat)
  | scale (factor : Nat)
deriving DecidableEq

namespace NumberWord

def amounts : List (Text × Nat) := [
  ("zero".toList, 0), ("one".toList, 1), ("two".toList, 2), ("three".toList, 3),
  ("four".toList, 4), ("five".toList, 5), ("six".toList, 6), ("seven".toList, 7),
  ("eight".toList, 8), ("nine".toList, 9), ("ten".toList, 10), ("eleven".toList, 11),
  ("twelve".toList, 12), ("thirteen".toList, 13), ("fourteen".toList, 14),
  ("fifteen".toList, 15), ("sixteen".toList, 16), ("seventeen".toList, 17),
  ("eighteen".toList, 18), ("nineteen".toList, 19), ("twenty".toList, 20),
  ("thirty".toList, 30), ("forty".toList, 40), ("fifty".toList, 50), ("sixty".toList, 60),
  ("seventy".toList, 70), ("eighty".toList, 80), ("ninety".toList, 90)]

def scales : List (Text × Nat) := [
  ("hundred".toList, 100), ("thousand".toList, 1000), ("million".toList, 1000000),
  ("billion".toList, 1000000000)]

/-- Numerals are written in the digits 0 to 9 only and have no sign. -/
def isNumeral (word : Text) : Bool :=
  !word.isEmpty && word.all Char.isDigit

def ofText? (word : Text) : Option NumberWord :=
  if isNumeral word then some (.amount (Nat.ofDigitChars 10 word 0))
  else match amounts.lookup word with
    | some n => some (.amount n)
    | none => (scales.lookup word).map .scale

end NumberWord

def isNumberWord (word : Text) : Bool :=
  (NumberWord.ofText? word).isSome

end WordArithmetic
