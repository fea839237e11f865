namespace WordArithmetic

abbrev Text := List Char

namespace Text

def unwords (words : List Text) : Text :=
  [' '].intercalate words

def unlines (lines : List Text) : Text :=
  lines.flatMap (· ++ ['\n'])

def byteLength : Text → Nat
  | [] => 0
  | c :: rest => c.utf8Size + byteLength rest

def ofNat (n : Nat) : Text :=
  Nat.toDigits 10 n

def spaced (text : Text) : Text :=
  text.map fun c => if c = '-' then ' ' else c

/-- Ranges of code points, both ends included, in increasing order. -/
abbrev CodeRanges := List (Nat × Nat)

/-- The search ends at the first range that starts after the code point. -/
def CodeRanges.contains (c : Char) : CodeRanges → Bool
  | [] => false
  | (first, last) :: rest => first ≤ c.toNat && (c.toNat ≤ last || contains c rest)

/-- The characters with the property White_Space. -/
def blankRanges : CodeRanges := [
  (0x0009, 0x000D), (0x0020, 0x0020), (0x0085, 0x0085), (0x00A0, 0x00A0), (0x1680, 0x1680),
  (0x2000, 0x200A), (0x2028, 0x2029), (0x202F, 0x202F), (0x205F, 0x205F), (0x3000, 0x3000)]

def isBlank (c : Char) : Bool :=
  blankRanges.contains c

def words (text : Text) : List Text :=
  (text.splitOnP isBlank).filter (· ≠ [])

def trim (text : Text) : Text :=
  ((text.dropWhile isBlank).reverse.dropWhile isBlank).reverse

end Text

end WordArithmetic
