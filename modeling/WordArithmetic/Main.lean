import WordArithmetic.CommandLine.Run

namespace WordArithmetic.CommandLine

def lookUp (name : String) : IO (Option Text) := do
  return (← IO.getEnv name).map String.toList

/-- A file that cannot be read holds nothing. -/
def contents (path : Text) : IO (List UInt8) := do
  try
    return (← IO.FS.readBinFile (String.ofList path)).toList
  catch _ =>
    return []

def logLine (event : Event) : Text :=
  ['['] ++ event.level.name ++ [' '] ++ event.target ++ "] ".toList ++ event.message

def Environment.load : IO Environment := do
  let path := Settings.path? (← lookUp "XDG_CONFIG_HOME") (← lookUp "HOME")
  let file ← match path with
    | some path => contents path
    | none => pure []
  return ⟨← lookUp "WORDCALC_SEPARATOR", ← lookUp "WORDCALC_VERBOSE", file, logLine⟩

end WordArithmetic.CommandLine

open WordArithmetic in
def main (arguments : List String) : IO UInt32 := do
  let environment ← CommandLine.Environment.load
  let outcome := CommandLine.run environment (arguments.map String.toList)
  (← IO.getStderr).putStr (String.ofList outcome.errors)
  (← IO.getStdout).putStr (String.ofList outcome.output)
  return outcome.status.toUInt32
