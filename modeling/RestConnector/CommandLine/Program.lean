import RestConnector.CommandLine.Commands
import RestConnector.CommandLine.Help

/-!
# The program

The program reads its arguments up to the command, takes its settings from the environment, and carries
out the command. `Program.run` is all of it: from arguments, environment, typed text, network and file
tree to what is shown, the status, and the console at the end.

Help and version are shown as soon as they are asked for, before any value is checked.
-/

namespace RestConnector.CommandLine

open RestConnector.Survey RestConnector.Text

/-- Shows the help or the version if an option asks for it, and ends. -/
def showInformation (part : Part) (reading : Reading) : Interaction Unit :=
  match reading.given.find? fun given => given.1 = .help ∨ given.1 = .version with
  | some (.help, _) => do
    sayAll part.help
    Interaction.leave (.exited 0)
  | some _ => do
    Interaction.say (programName ++ ", version " ++ version)
    Interaction.leave (.exited 0)
  | none => return ()

/-- Reads arguments and shows what information they ask for. -/
def readPart (part : Part) (arguments : List String) : Interaction Reading := do
  let reading ← Interaction.expect part (readArguments part arguments)
  showInformation part reading
  return reading

/-- What the arguments up to the command say. -/
structure Choice where
  command : Command
  /-- The arguments of the command. -/
  arguments : List String
  isVerbose : Bool
deriving DecidableEq, Repr

/-- Chooses the command. What stands in place of a command and begins like an option is read as an
option once more. -/
def choose (arguments : List String) : Interaction Choice := do
  if arguments.isEmpty then
    sayAll Part.program.help
    Interaction.leave (.exited 2)
  else
    let reading ← readPart .program arguments
    match reading.operands with
    | [] => Interaction.leave (.misused .program .commandMissing)
    | name :: rest =>
      match Command.ofName? name with
      | some command => return { command, arguments := rest, isVerbose := reading.has .verbose }
      | none =>
        if startsWith "-" name then
          let _ ← readPart .program (name :: rest)
        Interaction.leave (.misused .program (.unknownCommand name))

/-- Takes the settings from the environment. -/
def takeSettings (environment : List (String × String)) : Interaction Settings :=
  match Settings.ofEnvironment environment with
  | .ok settings => return settings
  | .error fault => Interaction.leave (.broken (.settings fault))

/-- Checks the values of options. A place with a null character in it cannot even be looked for. -/
def checkValues (part : Part) (tree : Disk.FileTree) :
    List (OptionName × String) → Interaction Unit
  | [] => return ()
  | (option, value) :: rest => do
    if option = .output ∧ value.toList.contains '\x00' then
      Interaction.leave (.broken (.run (.notWritten { kind := .nullCharacter, place := value })))
    Interaction.expect part (checkValue tree (option, value))
    checkValues part tree rest

/-- Carries out a command. -/
def perform (settings : Settings) (command : Command) (arguments : List String) :
    Interaction Unit := do
  let part := Part.command command
  let reading ← readPart part arguments
  checkValues part (← Interaction.fileTree) reading.settled
  let baseUrl ← Interaction.expect part (reading.baseUrl command)
  match command with
  | .generate => generate settings reading baseUrl
  | .probe => probe settings reading baseUrl
  | .discover => discoverEndpoints settings reading baseUrl

/-- The whole program. -/
def program (environment : List (String × String)) (arguments : List String) :
    Interaction Unit := do
  let choice ← choose arguments
  let settings ← takeSettings environment
  Interaction.setLogLevel (if choice.isVerbose then .debug else LogLevel.ofWord settings.logLevel)
  perform settings choice.command choice.arguments

/-! ## Running it -/

/-- The status with which the program ends. -/
def Ending.status : Ending → Nat
  | .exited status => status
  | .misused _ _ => 2
  | .failed _ | .aborted _ | .broken _ => 1

/-- What is shown at an end. Nothing is said about a breakdown; that is left to the caller. -/
def Ending.showOn (ending : Ending) (console : Console) : Console :=
  match ending with
  | .exited _ | .broken _ => console
  | .misused part misuse =>
    let usage :=
      if misuse.showsUsage then
        part.usage ++ "\nTry '" ++ part.call ++ " --help' for help.\n\n"
      else ""
    console.print (usage ++ "Error: " ++ misuse.message ++ "\n")
  | .failed message => console.print ("Error: " ++ message ++ "\n")
  | .aborted trailing => console.add ("Aborted!\n" ++ trailing)

/-- What has been shown, with every line ended by a line feed alone: a carriage return that stands right
before a line feed is dropped. -/
def Console.withPlainLineEnds (console : Console) : Console :=
  { console with shown := onChars (replace "\r\n" "\n") console.shown }

/-- What a run of the program comes to. -/
structure Conclusion where
  status : Nat
  breakdown : Option Breakdown := none
  console : Console

/-- How a run of the program concludes. -/
def conclude : Except Ending Unit × Console → Conclusion
  | (.ok (), console) => { status := 0, console := console.withPlainLineEnds }
  | (.error ending, console) =>
    { status := ending.status
      breakdown := match ending with
        | .broken breakdown => some breakdown
        | _ => none
      console := (ending.showOn console).withPlainLineEnds }

/-- The lines of a typed text. A line ends at a line feed, at a carriage return, or at both together. -/
def typedLines : List Char → List (List Char)
  | [] => []
  | '\r' :: '\n' :: cs => [] :: typedLines cs
  | c :: cs =>
    if c = '\n' ∨ c = '\r' then [] :: typedLines cs
    else match typedLines cs with
      | [] => [[c]]
      | line :: lines => (c :: line) :: lines

/-- Runs the program. -/
def runProgram (environment : List (String × String)) (arguments : List String)
    (typed : String) (network : Network) (tree : Disk.FileTree) : Conclusion :=
  conclude (program environment arguments network
    { typed := (typedLines typed.toList).map String.ofList, tree })

end RestConnector.CommandLine
