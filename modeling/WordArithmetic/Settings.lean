import WordArithmetic.Text.Lowercase

namespace WordArithmetic

structure Settings where
  separator : Char := ','
  verbose : Bool := false
deriving DecidableEq

namespace Settings

/-- A separator is one character, which the word space may stand for. -/
def separator? (text : Text) : Option Char :=
  if text = "space".toList then some ' '
  else match text with
    | [c] => some c
    | _ => none

def flag? (text : Text) : Option Bool :=
  let word := Text.lowercase (Text.trim text)
  if ["1".toList, "true".toList, "yes".toList, "on".toList].contains word then some true
  else if ["0".toList, "false".toList, "no".toList, "off".toList].contains word then some false
  else none

structure Entry where
  key : Text
  value : Text
deriving DecidableEq

/-- A value that cannot be used leaves the setting as it is. -/
def adopt (s : Settings) (entry : Entry) : Settings :=
  if entry.key = "separator".toList then
    { s with separator := (separator? entry.value).getD s.separator }
  else if entry.key = "verbose".toList then
    { s with verbose := (flag? entry.value).getD s.verbose }
  else s

/-- The environment's settings win over the file's, and of the file's the last. -/
def ofSources (separator verbose : Option Text) (entries : List Entry) : Settings :=
  let filed := entries.foldl adopt {}
  { separator := (separator.bind separator?).getD filed.separator
    verbose := (verbose.bind flag?).getD filed.verbose }

def decode? (bytes : List UInt8) : Option Text :=
  (String.fromUTF8? bytes.toByteArray).map String.toList

/-- Nothing is read from the first line on that is not text. -/
def readableLines : List (List UInt8) → List Text
  | [] => []
  | line :: rest =>
    match decode? line with
    | none => []
    | some text => text :: readableLines rest

/-- Comments and lines without an equals sign are no entries. -/
def Entry.ofLine? (line : Text) : Option Entry :=
  let line := Text.trim line
  if line.head? = some '#' then none
  else if '=' ∈ line then
    some ⟨Text.trim (line.takeWhile (· ≠ '=')), Text.trim ((line.dropWhile (· ≠ '=')).drop 1)⟩
  else none

def entries (bytes : List UInt8) : List Entry :=
  (readableLines (bytes.splitOn 10)).filterMap Entry.ofLine?

def joinPath (directory name : Text) : Text :=
  if directory = [] ∨ directory.getLast? = some '/' then directory ++ name
  else directory ++ '/' :: name

/-- The settings file lies under the configuration directory, or else under the home directory. -/
def path? (configuration home : Option Text) : Option Text :=
  (configuration <|> home.map (joinPath · ".config".toList)).map fun directory =>
    joinPath (joinPath directory "wordcalc".toList) "config".toList

end Settings

end WordArithmetic
