import WordArithmetic.Text.Basic
import WordArithmetic.Text.CapitalRuns
import WordArithmetic.Text.CasedRanges
import WordArithmetic.Text.CaseIgnorableRanges

namespace WordArithmetic.Text

def isCased (c : Char) : Bool :=
  casedRanges.contains c

def isCaseIgnorable (c : Char) : Bool :=
  caseIgnorableRanges.contains c

/-- The search ends at the first run that starts after the code point. -/
def lowercaseCode (code : Nat) : List CapitalRun → Nat
  | [] => code
  | run :: rest =>
    if code < run.first then code
    else if code ≤ run.last then
      if (code - run.first) % run.step = 0 then run.lowercaseOfFirst + (code - run.first) else code
    else lowercaseCode code rest

/-- The lowercase form of a character by itself. The dotted capital I keeps its dot as a mark. -/
def lowercaseChar (c : Char) : Text :=
  if c = 'İ' then ['i', '\u0307'] else [Char.ofNat (lowercaseCode c.toNat capitalRuns)]

/-- Whether the nearest character that counts for case is a letter. -/
def startsWithLetter (text : Text) : Bool :=
  (text.dropWhile isCaseIgnorable).head?.any isCased

/-- A capital sigma takes its final form where a letter goes before it in the word and none
follows. -/
def lowercaseAfter (afterLetter : Bool) : Text → Text
  | [] => []
  | c :: rest =>
    (if c = 'Σ' then [if afterLetter && !startsWithLetter rest then 'ς' else 'σ']
      else lowercaseChar c) ++
    lowercaseAfter (if isCaseIgnorable c then afterLetter else isCased c) rest

def lowercase (text : Text) : Text :=
  lowercaseAfter false text

end WordArithmetic.Text
