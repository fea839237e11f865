import WordArithmetic.Correction
import WordArithmetic.Expression.Reduction
import WordArithmetic.Numeral.Reading
import WordArithmetic.Sentence.Token

namespace WordArithmetic

/-- A word that a number phrase passes over, and the known word it may have been meant for. -/
structure Warning where
  word : Text
  position : Nat
  suggestion : Option Text
deriving DecidableEq

/-- The warnings of an operand at a position. The parts of a hyphenated word share its position. -/
def Warning.ofOperand (text : Text) (position : Nat) : List Warning :=
  ((Text.words text).zipIdx position).flatMap fun (word, place) =>
    (Numeral.unknownWords word).map fun unknown =>
      ⟨unknown, place, Correction.suggestion unknown⟩

def Warning.counted (count : Nat → Nat) (warning : Warning) : Warning :=
  { warning with position := count warning.position }

/-- Counts of words are kept in 64 bits. A sum beyond them starts again at 0, or stops a build that
checks its sums. -/
def wordCount (n : Nat) : Nat :=
  n % 0x10000000000000000

def namesNumber (text : Text) : Bool :=
  (Text.words text).any fun word => (Numeral.phraseWords word).any isNumberWord

/-- The warnings of all analyses so far, and the words passed over while numbers were read. -/
structure Notes where
  warnings : List Warning := []
  skipped : List Text := []
deriving DecidableEq

structure Noted (α : Type) where
  result : Except Fault α
  notes : Notes

def Noted.andThen {α β : Type} (noted : Noted α) (next : α → Notes → Noted β) : Noted β :=
  match noted.result with
  | .ok a => next a noted.notes
  | .error fault => ⟨.error fault, noted.notes⟩

namespace Notes

def suggestionFrom (notes : Notes) (position : Nat) : Option Text :=
  (notes.warnings.reverse.find? (position ≤ ·.position)).bind Warning.suggestion

/-- Warnings are noted of every operand, also of one that fails. -/
def readOperand (count : Nat → Nat) (notes : Notes) (token : Token) : Noted Value :=
  match token.part with
  | .operator _ phrase => ⟨.error (.atWord token.position (.missingOperand phrase)), notes⟩
  | .operand text =>
    let own := (Warning.ofOperand text token.position).map (Warning.counted count)
    let warned := { notes with warnings := notes.warnings ++ own }
    if namesNumber text then
      let reading := Numeral.read text
      let noted := { warned with skipped := warned.skipped ++ reading.skipped }
      match reading.value with
      | some v => ⟨.ok v, noted⟩
      | none => ⟨.error (.atWord token.position .outOfRange), noted⟩
    else
      let suggestion := warned.suggestionFrom token.position
      ⟨.error ⟨.notANumber text, some token.position, suggestion⟩, warned⟩

/-- An operand and the steps behind it, put together. -/
def readOperandAnd {α : Type} (count : Nat → Nat) (notes : Notes) (operand : Token)
    (readRest : Notes → Noted (List Step)) (make : Value → List Step → α) : Noted α :=
  (notes.readOperand count operand).andThen fun v after =>
    (readRest after).andThen fun steps last => ⟨.ok (make v steps), last⟩

def readSteps (count : Nat → Nat) (notes : Notes) : List Token → Noted (List Step)
  | [] => ⟨.ok [], notes⟩
  | ⟨.operand text, position⟩ :: _ => ⟨.error (.atWord position (.missingOperand text)), notes⟩
  | [⟨.operator _ phrase, position⟩] =>
    ⟨.error (.atWord position (.trailingOperator phrase)), notes⟩
  | ⟨.operator op _, _⟩ :: operand :: rest =>
    notes.readOperandAnd count operand (fun after => after.readSteps count rest) fun v steps =>
      ⟨op, v, operand.position⟩ :: steps

/-- Operands and operators must alternate, and the leftmost fault is the one reported. -/
def analyze (count : Nat → Nat) (notes : Notes) : List Token → Noted Expression
  | [] => ⟨.error ⟨.nothing, none, none⟩, notes⟩
  | first :: rest =>
    notes.readOperandAnd count first (fun after => after.readSteps count rest) Expression.mk

end Notes

/-- What can be asked of an analyst, who keeps the notes from one request to the next. -/
inductive Request where
  | analyze (tokens : List Token)
  | forgetWarnings
deriving DecidableEq

namespace Notes

def answer (notes : Notes) : Request → Option (Except Fault Expression) × Notes
  | .analyze tokens =>
    (some (notes.analyze wordCount tokens).result, (notes.analyze wordCount tokens).notes)
  | .forgetWarnings => (none, { notes with warnings := [] })

def session (notes : Notes) : List Request → List (Option (Except Fault Expression) × Notes)
  | [] => []
  | request :: rest => notes.answer request :: (notes.answer request).2.session rest

end Notes

end WordArithmetic
