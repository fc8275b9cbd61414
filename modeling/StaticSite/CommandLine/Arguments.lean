import StaticSite.CommandLine.Parameter
import StaticSite.Number.Written
import StaticSite.Text.Split

/-!
# Arguments

The words of a command line are read from left to right: a flag takes its value with it, and what is
no flag is left over, as is everything after two dashes. Parameters that the words leave open are
taken from the environment. No parameter is given twice.
-/

set_option autoImplicit false

namespace StaticSite.CommandLine

open StaticSite.Text

/-- What is wrong with a command line. -/
inductive UsageError where
  | unknownCommand (word : String)
  | unknownFlag (word : String)
  | unusedWords (words : List String)
  /-- A flag lacks its value. -/
  | missingValue (flag : Flag)
  | givenTwice (flag : Flag)
  /-- The position of a switch cannot be made out. -/
  | noPosition (flag : Flag) (value : String)
deriving DecidableEq, Repr

/-- What is wrong with a command line, in words. -/
def UsageError.message : UsageError → String
  | unknownCommand word => "Unknown command \"" ++ word ++ "\"."
  | unknownFlag word => "Unknown option: \"" ++ word ++ "\"."
  | unusedWords words => "Unused words: " ++ String.intercalate " " words
  | missingValue flag => "\"" ++ flag.spelling ++ "\" requires a value."
  | givenTwice flag => "\"" ++ flag.spelling ++ "\" is given more than once."
  | noPosition flag value =>
    "\"" ++ flag.spelling ++ "\" is neither on nor off: \"" ++ value ++ "\"."

/-- The parameters that are given, and the words left over. -/
structure Arguments where
  texts : List (TextParameter × String) := []
  switches : List (Switch × Bool) := []
  unused : List String := []
deriving DecidableEq, Repr

namespace Arguments

/-- Whether the parameter of a flag is given. -/
def has (arguments : Arguments) : Flag → Bool
  | .text parameter => (arguments.texts.lookup parameter).isSome
  | .switch switch _ => (arguments.switches.lookup switch).isSome

/-- Leaves a word over. -/
def leave (arguments : Arguments) (word : String) : Arguments :=
  { arguments with unused := arguments.unused ++ [word] }

end Arguments

/-! ## Words -/

/-- Whether a word looks like a flag: it starts with a dash and is no negative number. -/
def looksLikeFlag (word : String) : Bool :=
  word.startsWith "-" && !StaticSite.Number.Written.isSignedNumber word

/-- The position of a switch in words. -/
def readPosition? (s : String) : Option Bool :=
  let s := s.toLower
  if ["yes", "y", "1", "true", "t"].contains s then some true
  else if ["no", "n", "0", "false", "f"].contains s then some false
  else none

/-- A word with the text after its first equals sign apart. -/
def splitWord (word : String) : String × Option String :=
  match cutAt? '=' word.toList with
  | some (flag, value) => (String.ofList flag, some (String.ofList value))
  | none => (word, none)

namespace Arguments

/-- Gives a text. -/
def giveText (arguments : Arguments) (parameter : TextParameter) (value : String) :
    Except UsageError Arguments :=
  if arguments.has (.text parameter) then .error (.givenTwice (.text parameter))
  else .ok { arguments with texts := arguments.texts ++ [(parameter, value)] }

/-- Sets a switch. -/
def giveSwitch (arguments : Arguments) (switch : Switch) (position : Bool) :
    Except UsageError Arguments :=
  if arguments.has (.switch switch true) then .error (.givenTwice (.switch switch true))
  else .ok { arguments with switches := arguments.switches ++ [(switch, position)] }

/-- Sets a switch by a flag of it. A value after the flag says whether the flag is meant. -/
def turn (arguments : Arguments) (switch : Switch) (on : Bool) (value : Option String) :
    Except UsageError Arguments :=
  match value with
  | none => arguments.giveSwitch switch on
  | some value =>
    match readPosition? value with
    | some meant => arguments.giveSwitch switch (on == meant)
    | none => .error (.noPosition (.switch switch on) value)

/-- Reads words before two dashes. -/
def readWords (arguments : Arguments) : List String → Except UsageError Arguments
  | [] => .ok arguments
  | word :: rest =>
    let (name, value) := splitWord word
    let flag := if looksLikeFlag word then Flag.ofWord? name else none
    match flag, value, rest with
    | none, _, rest => readWords (arguments.leave word) rest
    | some (.switch switch on), value, rest => do
      readWords (← arguments.turn switch on value) rest
    | some (.text parameter), some value, rest => do
      readWords (← arguments.giveText parameter value) rest
    | some (.text parameter), none, value :: rest =>
      if looksLikeFlag value then .error (.missingValue (.text parameter))
      else do readWords (← arguments.giveText parameter value) rest
    | some (.text parameter), none, [] => .error (.missingValue (.text parameter))

/-- Takes what a variable of the environment says. Both variables of a switch say its position. -/
def takeVariable (arguments : Arguments) (flag : Flag) (value : String) :
    Except UsageError Arguments :=
  match flag with
  | .text parameter => arguments.giveText parameter value
  | .switch switch on =>
    match readPosition? value with
    | some position => arguments.giveSwitch switch position
    | none => .error (.noPosition (.switch switch on) value)

/-- Takes parameters that are still open from the variables of the environment. -/
def takeVariables (arguments : Arguments) (environment : List (String × String)) :
    Except UsageError Arguments :=
  let named := environment.filterMap fun (name, value) =>
    (Flag.ofVariable? name).map fun flag => (flag, value)
  (named.filter fun (flag, _) => !arguments.has flag).foldlM
    (fun arguments (flag, value) => arguments.takeVariable flag value) arguments

/-- Complains of words left over. -/
def complete (arguments : Arguments) : Except UsageError Arguments :=
  match arguments.unused.find? looksLikeFlag, arguments.unused with
  | some word, _ => .error (.unknownFlag (splitWord word).1)
  | none, [] => .ok arguments
  | none, words => .error (.unusedWords words)

/-- The words before and after two dashes. -/
def splitWords (words : List String) : List String × List String :=
  (words.takeWhile (· != "--"), (words.dropWhile (· != "--")).drop 1)

/-- Reads the words after a command. -/
def read (words : List String) (environment : List (String × String)) :
    Except UsageError Arguments := do
  let (before, after) := splitWords words
  let arguments ← readWords {} before
  let arguments ← takeVariables { arguments with unused := arguments.unused ++ after } environment
  complete arguments

end Arguments

end StaticSite.CommandLine
