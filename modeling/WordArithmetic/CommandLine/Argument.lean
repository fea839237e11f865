import WordArithmetic.Settings

namespace WordArithmetic.CommandLine

/-- An option with what it takes, or a word of the input. -/
inductive Argument where
  | parse
  | raw
  | verbose
  | format (literal : Text)
  | separator (c : Char)
  | word (text : Text)
deriving DecidableEq

inductive Refusal where
  | usage
  | badSeparator
deriving DecidableEq

namespace Argument

/-- An argument that takes nothing from those after it, unless it asks for help. -/
def ofText? (text : Text) : Option Argument :=
  if text = "--parse".toList then some .parse
  else if text = "--raw".toList then some .raw
  else if text = "--verbose".toList ∨ text = "-v".toList then some .verbose
  else if text = "--help".toList ∨ text = "-h".toList then none
  else some (.word text)

/-- The arguments are read from left to right, and the first that is refused decides. -/
def readAll : List Text → Except Refusal (List Argument)
  | [] => .ok []
  | text :: rest =>
    if text = "--format".toList then
      match rest with
      | [] => .error .usage
      | literal :: rest => (readAll rest).map (.format literal :: ·)
    else if text = "--separator".toList then
      match rest with
      | [] => .error .badSeparator
      | value :: rest =>
        match Settings.separator? value with
        | none => .error .badSeparator
        | some c => (readAll rest).map (.separator c :: ·)
    else
      match ofText? text with
      | none => .error .usage
      | some argument => (readAll rest).map (argument :: ·)

end Argument

structure Options where
  parse : Bool := false
  raw : Bool := false
  verbose : Bool := false
  format : Option Text := none
  separator : Option Char := none
  words : List Text := []
deriving DecidableEq

namespace Options

def adopt (options : Options) : Argument → Options
  | .parse => { options with parse := true }
  | .raw => { options with raw := true }
  | .verbose => { options with verbose := true }
  | .format literal => { options with format := some literal }
  | .separator c => { options with separator := some c }
  | .word text => { options with words := options.words ++ [text] }

/-- Of options that set the same thing the last wins, and the words keep their order. -/
def ofArguments (arguments : List Argument) : Options :=
  arguments.foldl adopt {}

end Options

end WordArithmetic.CommandLine
