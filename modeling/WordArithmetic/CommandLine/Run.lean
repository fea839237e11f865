import WordArithmetic.CommandLine.Argument
import WordArithmetic.Evaluation

namespace WordArithmetic.CommandLine

/-- The settings of the environment, the bytes of the settings file, none if there is no file, and
the lines in which a logger shows events. -/
structure Environment where
  separator : Option Text := none
  verbose : Option Text := none
  file : List UInt8 := []
  line : Event → Text := Event.message

structure Outcome where
  status : Nat
  output : Text
  errors : Text
deriving DecidableEq

def usage : List Text := [
  "wordcalc v0.1.0".toList,
  "Usage: wordcalc <expression words...> [options]".toList,
  [],
  "Options:".toList,
  "  --parse          Read the input as one number phrase".toList,
  "  --format <n>     Format an integer and exit".toList,
  "  --separator <c>  Group separator for output (default ',')".toList,
  "  --raw            Print the result without grouping".toList,
  "  -v | --verbose   Log tokens and steps to stderr".toList,
  [],
  "Example: wordcalc three million multiplied by two".toList]

namespace Outcome

def failure (errors : List Text) : Outcome :=
  ⟨1, [], Text.unlines errors⟩

def success (output : Text) (errors : List Text) : Outcome :=
  ⟨0, Text.unlines [output], Text.unlines errors⟩

end Outcome

/-- Options win over the settings of the environment and the file. -/
def settings (environment : Environment) (options : Options) : Settings :=
  let general := Settings.ofSources environment.separator environment.verbose
    (Settings.entries environment.file)
  { separator := options.separator.getD general.separator
    verbose := options.verbose || general.verbose }

def render (s : Settings) (options : Options) (value : Value) : Text :=
  if options.raw then value.text else value.grouped s.separator

def tokenLine (token : Token) : Text :=
  "  word ".toList ++ (Text.ofNat token.position).leftpad 2 ' ' ++ ": ".toList ++
    token.part.listing

def warningLine (warning : Warning) : Text :=
  "warning: ignored '".toList ++ warning.word ++ ['\''] ++
    match warning.suggestion with
    | none => []
    | some word => " (did you mean '".toList ++ word ++ "'?)".toList

def logLines (line : Event → Text) (s : Settings) (log : List Event) : List Text :=
  if s.verbose then log.map line else []

def formatValue (s : Settings) (options : Options) (literal : Text) : Outcome :=
  match Value.read (Text.trim literal) with
  | .ok value => .success (render s options value) []
  | .error fault =>
    .failure ["Cannot format '".toList ++ literal ++ "': ".toList ++ fault.message]

def parsePhrase (line : Event → Text) (s : Settings) (options : Options) (phrase : Text) :
    Outcome :=
  .success (render s options (Numeral.valueOf phrase))
    (logLines line s (Numeral.read phrase).log)

def evaluateSentence (line : Event → Text) (s : Settings) (options : Options) (sentence : Text) :
    Outcome :=
  let scanner := Scanner.ofSentence sentence
  let evaluated := evaluation sentence
  let listing := if s.verbose then scanner.run.1.map tokenLine else []
  let lines := logLines line s scanner.log ++ listing ++ logLines line s evaluated.log
  match evaluated.result with
  | .ok answer =>
    let warnings := if s.verbose then answer.warnings.map warningLine else []
    .success (render s options answer.value) (lines ++ warnings)
  | .error fault => .failure (lines ++ fault.reportLines sentence)

def perform (line : Event → Text) (s : Settings) (options : Options) : Outcome :=
  let input := Text.unwords options.words
  match options.format with
  | some literal => formatValue s options literal
  | none =>
    if Text.trim input = [] then .failure usage
    else if options.parse then parsePhrase line s options input
    else evaluateSentence line s options input

def run (environment : Environment) (arguments : List Text) : Outcome :=
  if arguments = [] then .failure usage
  else match Argument.readAll arguments with
    | .error .usage => .failure usage
    | .error .badSeparator => .failure ["--separator takes exactly one character".toList]
    | .ok read =>
      let options := Options.ofArguments read
      perform environment.line (settings environment options) options

end WordArithmetic.CommandLine
