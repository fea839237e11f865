import WordArithmetic.Value.Basic

namespace WordArithmetic.Value

/-- A separator goes after each digit that a multiple of three digits follows, if any do. -/
def groupDigits (separator : Char) : Text → Text
  | [] => []
  | [d] => [d]
  | d :: rest =>
    if rest.length % 3 = 0 then d :: separator :: groupDigits separator rest
    else d :: groupDigits separator rest

def text (v : Value) : Text :=
  (if v.toInt < 0 then ['-'] else []) ++ Nat.toDigits 10 v.toInt.natAbs

def grouped (separator : Char) (v : Value) : Text :=
  (if v.toInt < 0 then ['-'] else []) ++ groupDigits separator (Nat.toDigits 10 v.toInt.natAbs)

inductive LiteralFault where
  | empty
  | notADigit
  | tooLarge
  | tooSmall
deriving DecidableEq

def LiteralFault.message : LiteralFault → Text
  | .empty => "cannot parse integer from empty string".toList
  | .notADigit => "invalid digit found in string".toList
  | .tooLarge => "number too large to fit in target type".toList
  | .tooSmall => "number too small to fit in target type".toList

inductive Sign where
  | plus
  | minus
deriving DecidableEq

def Sign.extend (sign : Sign) (v : Value) (digit : Nat) : Option Value :=
  match sign with
  | .plus => ofInt? (10 * v.toInt + digit)
  | .minus => ofInt? (10 * v.toInt - digit)

def Sign.outOfRange : Sign → LiteralFault
  | .plus => .tooLarge
  | .minus => .tooSmall

/-- The digits are taken one by one, so the leftmost fault is the one reported. -/
def readDigits (sign : Sign) (v : Value) : Text → Except LiteralFault Value
  | [] => .ok v
  | c :: rest =>
    if c.isDigit then
      match sign.extend v (c.toNat - '0'.toNat) with
      | some longer => readDigits sign longer rest
      | none => .error sign.outOfRange
    else .error .notADigit

def read (literal : Text) : Except LiteralFault Value :=
  match literal with
  | [] => .error .empty
  | ['+'] | ['-'] => .error .notADigit
  | '+' :: digits => readDigits .plus zero digits
  | '-' :: digits => readDigits .minus zero digits
  | digits => readDigits .plus zero digits

end WordArithmetic.Value
