import WordArithmetic.Text.Basic
import WordArithmetic.Text.UnprintableRanges
import WordArithmetic.Text.GraphemeExtendRanges

namespace WordArithmetic.Text

/-- The letters that are drawn as nothing. -/
def fillerRanges : CodeRanges := [
  (0x115F, 0x1160), (0x3164, 0x3164), (0xFFA0, 0xFFA0)]

/-- The halfwidth sound marks, which are drawn beside the character that they extend. -/
def soundMarkRanges : CodeRanges := [
  (0xFF9E, 0xFF9F)]

/-- Whether a reader of the text would see no such character, or see it only as part of the one
before it. -/
def isHidden (c : Char) : Bool :=
  unprintableRanges.contains c || fillerRanges.contains c ||
    graphemeExtendRanges.contains c && !soundMarkRanges.contains c

/-- A character as it is written between double quotes, where all that would be misread or not be
seen is escaped. -/
def escape (c : Char) : Text :=
  match c with
  | '"' => ['\\', '"']
  | '\\' => ['\\', '\\']
  | '\x00' => ['\\', '0']
  | '\t' => ['\\', 't']
  | '\n' => ['\\', 'n']
  | '\r' => ['\\', 'r']
  | c =>
    if isHidden c then
      ['\\', 'u', '{'] ++ Nat.toDigits 16 c.toNat ++ ['}']
    else [c]

def quoted (text : Text) : Text :=
  '"' :: text.flatMap escape ++ ['"']

end WordArithmetic.Text
