import WordArithmetic.Numeral.Word
import WordArithmetic.Text.Lowercase
import WordArithmetic.Value.Basic

namespace WordArithmetic.Numeral

/-- The word that a number phrase may hold anywhere and that means nothing. -/
def filler : Text := "and".toList

/-- The words of a number phrase in lowercase, a hyphen dividing words as a blank does. -/
def phraseWords (phrase : Text) : List Text :=
  (Text.words (Text.spaced (Text.lowercase phrase))).filter (· ≠ filler)

def unknownWords (phrase : Text) : List Text :=
  (phraseWords phrase).filter (!isNumberWord ·)

/-- The closed groups of a number phrase and the group still open. -/
structure Tally where
  total : Value
  current : Value
deriving DecidableEq

namespace Tally

def start : Tally := ⟨Value.zero, Value.zero⟩

/-- A scale word with no amount before it counts once. Hundred stays within its group, and the
larger scales close theirs. -/
def extend? (t : Tally) : NumberWord → Option Tally
  | .amount n => do
    let amount ← Value.ofInt? n
    let group ← t.current.add? amount
    return ⟨t.total, group⟩
  | .scale factor => do
    let multiplier ← Value.ofInt? factor
    let group ← (if t.current = .zero then .one else t.current).multiply? multiplier
    if factor ≤ 100 then return ⟨t.total, group⟩
    let total ← t.total.add? group
    return ⟨total, .zero⟩

end Tally

/-- The value of a phrase, if it fits, and the words passed over up to its end or to the word at
which it outgrew the range. -/
structure Reading where
  value : Option Value
  skipped : List Text
deriving DecidableEq

def readWords (t : Tally) : List Text → Reading
  | [] => ⟨t.total.add? t.current, []⟩
  | word :: rest =>
    match NumberWord.ofText? word with
    | none =>
      let reading := readWords t rest
      ⟨reading.value, word :: reading.skipped⟩
    | some n =>
      match t.extend? n with
      | some longer => readWords longer rest
      | none => ⟨none, []⟩

/-- A numeral that stands alone is read at once, and any other phrase word by word. -/
def read (phrase : Text) : Reading :=
  match phraseWords phrase with
  | [word] =>
    if NumberWord.isNumeral word then ⟨Value.ofInt? (Nat.ofDigitChars 10 word 0), []⟩
    else readWords .start [word]
  | words => readWords .start words

def valueOf (phrase : Text) : Value :=
  (read phrase).value.getD .greatest

end WordArithmetic.Numeral
