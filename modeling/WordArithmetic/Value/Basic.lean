import WordArithmetic.Text.Basic

namespace WordArithmetic

/-- A whole number that fits in 64 bits, one of them for the sign. -/
@[ext] structure Value where
  toInt : Int
  least_le : -0x8000000000000000 ≤ toInt
  le_greatest : toInt ≤ 0x7FFFFFFFFFFFFFFF
deriving DecidableEq

namespace Value

def ofInt? (n : Int) : Option Value :=
  if h : -0x8000000000000000 ≤ n ∧ n ≤ 0x7FFFFFFFFFFFFFFF then some ⟨n, h.1, h.2⟩ else none

def zero : Value := ⟨0, by decide, by decide⟩

def one : Value := ⟨1, by decide, by decide⟩

def greatest : Value := ⟨0x7FFFFFFFFFFFFFFF, by decide, by decide⟩

def add? (a b : Value) : Option Value :=
  ofInt? (a.toInt + b.toInt)

def subtract? (a b : Value) : Option Value :=
  ofInt? (a.toInt - b.toInt)

def multiply? (a b : Value) : Option Value :=
  ofInt? (a.toInt * b.toInt)

/-- The quotient rounds toward zero; a zero divisor is the caller's to refuse. -/
def divide? (a b : Value) : Option Value :=
  ofInt? (a.toInt.tdiv b.toInt)

end Value

end WordArithmetic
