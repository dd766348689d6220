/-
SchemaSemver.CommandLine.Options — what the arguments of the program ask for.

Options and arguments may be mixed; two hyphens alone end the options, one hyphen alone is an
argument. Of a repeated option the last value counts. Asking for help or the version counts before
everything that is written correctly, whichever of the two comes first. Without such a request the
values are checked in the order in which their options first appear.
-/
import SchemaSemver.Log
import SchemaSemver.Text.Joined
import SchemaSemver.Text.Quoted
import SchemaSemver.Text.Similarity

namespace SchemaSemver.CommandLine

/-! ## Faults -/

/-- What is wrong with an option. -/
inductive OptionFault where
  /-- A letter behind one hyphen is no option. -/
  | unknownLetter (letter : Char)
  /-- A name behind two hyphens is no option. -/
  | unknownName (name : String)
  | noValue (name : String)
  | unwantedValue (name : String)
  | unknownLevel (value : String)
deriving DecidableEq, Repr

/-- The names of all options that have one. -/
def optionNames : List String := ["--version", "--config", "--log-level", "--help"]

/-- The options that a name may have been meant for, at most three, in the order of their names. -/
def likelyNames (name : String) : List String :=
  (Text.closeWords 3 optionNames name).mergeSort fun a b => decide (a ≤ b)

/-- The question whether one of some options was meant, behind what is said about a name. -/
def suggestion : List String → String
  | [] => ""
  | [name] => " Did you mean " ++ Text.quoted name ++ "?"
  | names => " (Did you mean one of: " ++ Text.joinWith ", " (names.map Text.quoted) ++ "?)"

namespace OptionFault

/-- What is said about the fault. -/
def message : OptionFault → String
  | unknownLetter letter => "No such option " ++ Text.quoted (String.ofList ['-', letter]) ++ "."
  | unknownName name =>
    "No such option " ++ Text.quoted name ++ "." ++ suggestion (likelyNames name)
  | noValue name => "Option " ++ Text.quoted name ++ " requires an argument."
  | unwantedValue name => "Option " ++ Text.quoted name ++ " does not take a value."
  | unknownLevel value =>
    "Invalid value for '--log-level': " ++ Text.quoted value
      ++ " is not one of 'debug', 'info', 'warning', 'error'."

/-- Is the usage of the program shown with the fault? -/
def showsUsage : OptionFault → Bool
  | unknownLetter _ => true
  | unknownName _ => true
  | unknownLevel _ => true
  | noValue _ => false
  | unwantedValue _ => false

end OptionFault

/-- Why the arguments ask for nothing. -/
inductive ArgumentFault where
  | wrongOption (fault : OptionFault)
  /-- The path of the settings file holds a null character. -/
  | nullInConfig
deriving DecidableEq, Repr

/-! ## Requests -/

/-- The options and arguments of a run. -/
structure Options where
  config : Option String
  logLevel : LogLevel
  arguments : List String
deriving DecidableEq, Repr

/-- What a run is asked for. -/
inductive Request where
  | help
  | version
  | run (options : Options)
deriving DecidableEq, Repr

/-! ## Reading -/

/-- The options that have a value. -/
inductive ValueOption where
  | config
  | logLevel
deriving DecidableEq, Repr

/-- What the arguments read so far say. -/
structure Written where
  /-- The values given to options, in the order in which they were written. -/
  values : List (ValueOption × String)
  /-- The first request for help or the version. -/
  information : Option Request
  arguments : List String
deriving DecidableEq, Repr

namespace Written

/-- Nothing was read. -/
def nothing : Written := ⟨[], none, []⟩

/-- A request for help or the version; only the first counts. -/
def askFor (request : Request) (written : Written) : Written :=
  { written with information := written.information.or (some request) }

/-- A value for an option. -/
def give (option : ValueOption) (value : String) (written : Written) : Written :=
  { written with values := written.values ++ [(option, value)] }

/-- The last value of an option. -/
def value? (option : ValueOption) (written : Written) : Option String :=
  written.values.reverse.lookup option

/-- The options that have values, in the order in which they first appear. -/
def options (written : Written) : List ValueOption := (written.values.map Prod.fst).eraseDups

end Written

/-- What the long name of an option means. -/
inductive LongOption where
  /-- It asks for help or the version. -/
  | asks (request : Request)
  /-- It takes a value. -/
  | takes (option : ValueOption)
deriving DecidableEq, Repr

/-- The option of a long name. -/
def longOption? (name : String) : Option LongOption :=
  if name = "--help" then some (.asks .help)
  else if name = "--version" then some (.asks .version)
  else if name = "--config" then some (.takes .config)
  else if name = "--log-level" then some (.takes .logLevel)
  else none

/-- The listed names are those that mean something. -/
theorem longOption?_isSome_iff (name : String) :
    (longOption? name).isSome ↔ name ∈ optionNames := by
  unfold longOption? optionNames
  repeat' split
  all_goals simp_all

/-- An option's name, and the value that an equals sign attaches to it. -/
def splitOption (argument : String) : String × Option String :=
  let chars := argument.toList
  let name := chars.takeWhile (· != '=')
  let attached := if chars.contains '=' then some (chars.drop (name.length + 1)) else none
  (String.ofList name, attached.map String.ofList)

/-- Letters behind one hyphen, each of which must be the one for help. -/
def readLetters (written : Written) : List Char → Except OptionFault Written
  | [] => .ok written
  | c :: rest =>
    if c = 'h' then readLetters (written.askFor .help) rest else .error (.unknownLetter c)

/-- Is the argument an option? -/
def isOption (argument : String) : Bool :=
  argument.startsWith "-" && argument != "-"

/-- Reads the arguments one by one. -/
def readArguments (written : Written) : List String → Except OptionFault Written
  | [] => .ok written
  | argument :: rest =>
    if argument = "--" then .ok { written with arguments := written.arguments ++ rest }
    else if !isOption argument then
      readArguments { written with arguments := written.arguments ++ [argument] } rest
    else
      let (name, attached) := splitOption argument
      match longOption? name, attached with
      | some (.asks request), none => readArguments (written.askFor request) rest
      | some (.asks _), some _ => .error (.unwantedValue name)
      | some (.takes option), some value => readArguments (written.give option value) rest
      | some (.takes option), none =>
        match rest with
        | value :: rest => readArguments (written.give option value) rest
        | [] => .error (.noValue name)
      | none, _ =>
        if argument.startsWith "--" then .error (.unknownName name)
        else
          match readLetters written (argument.toList.drop 1) with
          | .ok written => readArguments written rest
          | .error fault => .error fault

/-! ## Checking -/

/-- The log level that a run names; without one, warnings are shown. -/
def levelOf (written : Written) : Except OptionFault LogLevel :=
  match written.value? .logLevel with
  | none => .ok .warning
  | some name =>
    match LogLevel.ofName? name with
    | some level => .ok level
    | none => .error (.unknownLevel name)

/-- The value of an option must make sense: a path holds no null character, and a level is known. -/
def checkOption (written : Written) : ValueOption → Except ArgumentFault Unit
  | .config =>
    if (written.value? .config).any (·.toList.contains '\x00') then .error .nullInConfig else .ok ()
  | .logLevel => do
    let _ ← (levelOf written).mapError ArgumentFault.wrongOption

/-- What the arguments of the program ask for. -/
def parse (arguments : List String) : Except ArgumentFault Request := do
  let written ← (readArguments .nothing arguments).mapError .wrongOption
  match written.information with
  | some request => return request
  | none =>
    written.options.forM (checkOption written)
    let level ← (levelOf written).mapError .wrongOption
    return .run ⟨written.value? .config, level, written.arguments⟩

end SchemaSemver.CommandLine
