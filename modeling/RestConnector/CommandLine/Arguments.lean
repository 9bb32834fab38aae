import RestConnector.Configuration
import RestConnector.Disk.FileTree
import RestConnector.Text.Quoted
import RestConnector.Text.Similarity

/-!
# Arguments

The arguments of the program are read in two parts: those up to the name of the command, and those of
the command. Each part has its own options. An option is written in full behind two dashes, or as a
letter behind one; letters may be put together. An option that takes a value has it behind an equals
sign or as the next argument. Every other argument is an operand, and so is everything behind a
pair of dashes that stands alone.

`readArguments` tells the options that are given, in order, from the operands. What is wrong with the
arguments is a `Misuse`, and `Misuse.message` says it.
-/

namespace RestConnector.CommandLine

open RestConnector.Text

/-- What the program can do. -/
inductive Command where
  | generate | probe | discover
deriving DecidableEq, Repr

namespace Command

/-- The commands in the order of their names. -/
def all : List Command := [.discover, .generate, .probe]

/-- The word for a command. -/
def name : Command → String
  | .generate => "generate"
  | .probe => "probe"
  | .discover => "discover"

/-- The command that a word stands for. -/
def ofName? (word : String) : Option Command :=
  all.find? fun command => command.name = word

end Command

/-- The options that there are. -/
inductive OptionName where
  | help | version | verbose
  | name | package | output
  | noModels | noContract | noClient | noRegistration | mutableModels
  | report | interactive | checkAuth
  | auth | apiKey | apiKeyHeader | token | username | password
  | clientId | clientSecret | tokenEndpoint | scope
deriving DecidableEq, Repr

namespace OptionName

/-- How an option is written in full. -/
def spelling : OptionName → String
  | .help => "--help"
  | .version => "--version"
  | .verbose => "--verbose"
  | .name => "--name"
  | .package => "--package"
  | .output => "--output"
  | .noModels => "--no-models"
  | .noContract => "--no-contract"
  | .noClient => "--no-client"
  | .noRegistration => "--no-registration"
  | .mutableModels => "--mutable-models"
  | .report => "--report"
  | .interactive => "--interactive"
  | .checkAuth => "--check-auth"
  | .auth => "--auth"
  | .apiKey => "--api-key"
  | .apiKeyHeader => "--api-key-header"
  | .token => "--token"
  | .username => "--username"
  | .password => "--password"
  | .clientId => "--client-id"
  | .clientSecret => "--client-secret"
  | .tokenEndpoint => "--token-endpoint"
  | .scope => "--scope"

/-- The letter for an option. Only options without a value have one. -/
def letter? : OptionName → Option Char
  | .verbose => some 'v'
  | _ => none

/-- Whether an option takes a value. -/
def takesValue : OptionName → Bool
  | .name | .package | .output | .auth | .apiKey | .apiKeyHeader | .token | .username | .password
  | .clientId | .clientSecret | .tokenEndpoint | .scope => true
  | _ => false

end OptionName

/-- The options by which a command is told the credentials. -/
def credentialOptions : List OptionName := [
  .auth, .apiKey, .apiKeyHeader, .token, .username, .password, .clientId, .clientSecret,
  .tokenEndpoint, .scope]

/-- Whose arguments are read. -/
inductive Part where
  | program
  | command (command : Command)
deriving DecidableEq, Repr

namespace Part

/-- The options of a part. -/
def options : Part → List OptionName
  | .program => [.version, .verbose, .help]
  | .command .generate =>
    [.name, .package, .output, .noModels, .noContract, .noClient, .noRegistration, .mutableModels,
      .report, .interactive] ++ credentialOptions ++ [.help]
  | .command .probe => .checkAuth :: credentialOptions ++ [.help]
  | .command .discover => credentialOptions ++ [.help]

/-- Whether options may follow the first operand. -/
def mixesOperands : Part → Bool
  | .program => false
  | .command _ => true

/-- The option of a part that is written in full like this. -/
def ofSpelling? (part : Part) (text : String) : Option OptionName :=
  part.options.find? fun option => option.spelling = text

/-- The option of a part that has this letter. -/
def ofLetter? (part : Part) (c : Char) : Option OptionName :=
  part.options.find? fun option => option.letter? = some c

end Part

/-! ## Misuse -/

/-- What is wrong with the arguments of the program. -/
inductive Misuse where
  /-- There is no such option, but there may be similar ones. -/
  | unknownOption (text : String) (similar : List String)
  | valueMissing (option : OptionName)
  | valueUnexpected (option : OptionName)
  /-- The value is no kind of authentication. -/
  | unknownAuthentication (value : String)
  /-- The value should be a directory and is a file. -/
  | outputIsFile (value : String)
  | baseUrlMissing
  /-- The base URL may be left out, but only if it can be asked for. -/
  | baseUrlNotAsked
  | tooManyOperands (operands : List String)
  | commandMissing
  | unknownCommand (name : String)
deriving DecidableEq, Repr

namespace Misuse

/-- The hint at similar options. -/
def hint : List String → String
  | [] => ""
  | [option] => " Did you mean " ++ option ++ "?"
  | options =>
    " (Possible options: " ++ commaList (Sorted.sort Sorted.precedes options) ++ ")"

/-- Why a value was refused. -/
def refusal (option : OptionName) (reason : String) : String :=
  "Invalid value for " ++ quoted option.spelling ++ ": " ++ reason

/-- Why a word is no kind of authentication. -/
def notAuthentication (word : String) : String :=
  quoted word ++ " is not one of " ++
    commaList (Authentication.all.map fun kind => quoted kind.label) ++ "."

/-- What is said about a misuse. -/
def message : Misuse → String
  | .unknownOption text similar => "No such option: " ++ text ++ hint similar
  | .valueMissing option => "Option " ++ quoted option.spelling ++ " requires an argument."
  | .valueUnexpected option => "Option " ++ quoted option.spelling ++ " does not take a value."
  | .unknownAuthentication value => refusal .auth (notAuthentication value)
  | .outputIsFile value => refusal .output ("Directory " ++ quoted value ++ " is a file.")
  | .baseUrlMissing => "Missing argument 'BASE_URL'."
  | .baseUrlNotAsked => "BASE_URL is required unless --interactive is given"
  | .tooManyOperands operands =>
    "Got unexpected extra argument" ++ (if operands.length = 1 then "" else "s") ++ " (" ++
      String.intercalate " " operands ++ ")"
  | .commandMissing => "Missing command."
  | .unknownCommand name => "No such command " ++ quoted name ++ "."

/-- Whether the usage of the program is shown with a misuse: not if the only question is whether an
option takes a value. -/
def showsUsage : Misuse → Bool
  | .valueMissing _ | .valueUnexpected _ => false
  | _ => true

end Misuse

/-! ## Reading -/

/-- What one argument is. -/
inductive Argument where
  | operand
  /-- A pair of dashes that stands alone. -/
  | divider
  /-- Options that are complete. -/
  | complete (given : List (OptionName × String))
  /-- An option whose value is the next argument. -/
  | awaiting (option : OptionName)
deriving DecidableEq, Repr

/-- An option that is written in full, perhaps with a value behind an equals sign. -/
def inFull (option : OptionName) : Option String → Except Misuse Argument
  | some value =>
    if option.takesValue then .ok (.complete [(option, value)])
    else .error (.valueUnexpected option)
  | none => .ok (if option.takesValue then .awaiting option else .complete [(option, "")])

/-- Options that are written as letters. -/
def byLetter (part : Part) : List Char → Except Misuse (List (OptionName × String))
  | [] => .ok []
  | c :: cs =>
    match part.ofLetter? c with
    | some option => (byLetter part cs).map ((option, "") :: ·)
    | none => .error (.unknownOption (String.ofList ['-', c]) [])

/-- Tells what an argument is. -/
def classify (part : Part) (argument : String) : Except Misuse Argument :=
  if argument = "--" then .ok .divider
  else match argument.toList with
    | '-' :: c :: cs =>
      let text := String.ofList (before '=' ('-' :: c :: cs))
      match part.ofSpelling? text with
      | some option => inFull option ((behind? '=' (c :: cs)).map String.ofList)
      | none =>
        if c = '-' then
          .error (.unknownOption text (closest text (part.options.map OptionName.spelling)))
        else (byLetter part (c :: cs)).map .complete
    | _ => .ok .operand

/-- The options that are given, in order, and the operands. -/
structure Reading where
  given : List (OptionName × String) := []
  operands : List String := []
deriving DecidableEq, Repr

/-- Tells options from operands. -/
def readArguments (part : Part) : List String → Except Misuse Reading
  | [] => .ok {}
  | argument :: rest => do
    match ← classify part argument with
    | .divider => return { operands := rest }
    | .operand =>
      if part.mixesOperands then
        let reading ← readArguments part rest
        return { reading with operands := argument :: reading.operands }
      else return { operands := argument :: rest }
    | .complete given =>
      let reading ← readArguments part rest
      return { reading with given := given ++ reading.given }
    | .awaiting option =>
      match rest with
      | [] => .error (.valueMissing option)
      | value :: rest =>
        let reading ← readArguments part rest
        return { reading with given := (option, value) :: reading.given }

namespace Reading

/-- Every option that is given, once and with its last value, in the order in which they first come. -/
def settled (reading : Reading) : List (OptionName × String) :=
  Json.Members.ofList reading.given

/-- The value of an option. -/
def value? (reading : Reading) (option : OptionName) : Option String :=
  reading.settled.lookup option

/-- Whether an option is given. -/
def has (reading : Reading) (option : OptionName) : Bool :=
  (reading.value? option).isSome

end Reading

/-! ## Checking -/

/-- Whether there is a file at a written place. A place that ends in a slash or a dot can only be a
directory. -/
def isFileAt (tree : Disk.FileTree) (text : String) : Bool :=
  match (cutAt '/' text.toList).getLast? with
  | none | some [] | some ['.'] => false
  | some _ =>
    match Disk.resolve tree (Disk.Location.ofString text) with
    | .ok path =>
      match tree.node? path with
      | some (.file _) => true
      | _ => false
    | .error _ => false

/-- Checks the value of one option. -/
def checkValue (tree : Disk.FileTree) : OptionName × String → Except Misuse Unit
  | (.auth, value) =>
    if (Authentication.ofLabel? value).isSome then .ok () else .error (.unknownAuthentication value)
  | (.output, value) => if isFileAt tree value then .error (.outputIsFile value) else .ok ()
  | _ => .ok ()

/-- The base URL among the operands of a command. Only `generate` can do without. -/
def Reading.baseUrl (command : Command) (reading : Reading) : Except Misuse String :=
  match reading.operands with
  | [] => if command = .generate then .ok "" else .error .baseUrlMissing
  | [baseUrl] => .ok baseUrl
  | _ :: others => .error (.tooManyOperands others)

end RestConnector.CommandLine
