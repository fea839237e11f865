import WordArithmetic.Numeral.Word
import WordArithmetic.Sentence.Operator
import WordArithmetic.Text.Lowercase

namespace WordArithmetic.Correction

/-- The number of letters to insert for each ending of the text, the whole text first. -/
def insertions : Text → List Nat
  | [] => [0]
  | _ :: rest => (rest.length + 1) :: insertions rest

/-- From the distances between a text and each ending of the target, those for the text with one
more letter in front. -/
def extendRow (letter : Char) : Text → List Nat → List Nat
  | c :: target, delete :: keep :: row =>
    match extendRow letter target (keep :: row) with
    | [] => []
    | insert :: longer =>
      (if letter = c then keep else 1 + min keep (min delete insert)) :: insert :: longer
  | _, row => row.map (· + 1)

def distance (source target : Text) : Nat :=
  (source.foldr (fun letter row => extendRow letter target row) (insertions target)).headD 0

/-- Of equal costs the first wins. -/
def firstLeast (cost : Text → Nat) : List Text → Option Text
  | [] => none
  | entry :: rest =>
    match firstLeast cost rest with
    | none => some entry
    | some best => if cost entry ≤ cost best then some entry else some best

def tolerance (word : Text) : Nat :=
  min (word.length / 3) 2

def withinLength (gap : Nat) (word entry : Text) : Bool :=
  entry.length ≤ word.length + gap && word.length ≤ entry.length + gap

/-- The known word that a misspelled one is taken for. Known words are not corrected, nor are those
of fewer than three letters. -/
def nearest (vocabulary : List Text) (word : Text) : Option Text :=
  let word := Text.lowercase word
  if word.length < 3 || word ∈ vocabulary then none
  else
    firstLeast (distance word) <|
      vocabulary.filter fun entry =>
        withinLength (tolerance word) word entry && distance word entry ≤ tolerance word

/-- Puts a word at its place in a list in alphabetical order, unless it is there. -/
def insertWord (word : Text) : List Text → List Text
  | [] => [word]
  | entry :: rest =>
    if word = entry then entry :: rest
    else if word < entry then word :: entry :: rest
    else entry :: insertWord word rest

def vocabulary : List Text :=
  (NumberWord.amounts.map Prod.fst ++ NumberWord.scales.map Prod.fst ++
    Operator.phrases.flatMap fun (phrase, _) => Text.words phrase).foldr insertWord []

def suggestion (word : Text) : Option Text :=
  nearest vocabulary word

end WordArithmetic.Correction
