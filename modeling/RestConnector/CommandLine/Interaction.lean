import RestConnector.CommandLine.Arguments
import RestConnector.Run
import RestConnector.Text.Styles

/-!
# Interactions

A command talks to a user, to the network and to the file tree. What it has at hand is a `Console`: the
lines that are still to be typed, what has been shown, the journal of the network, and the file tree.
An `Interaction` ends with a result or before its end, and in both cases with the console it leaves.

A user who is asked something may not answer: when there are no more lines, the interaction is aborted.
The space behind a question belongs to the line of the answer; if no answer comes, it is shown last.
-/

namespace RestConnector.CommandLine

open RestConnector.Survey RestConnector.Text

/-- What no command is prepared for. -/
inductive Breakdown where
  | settings (fault : SettingsFault)
  | run (fault : RunFault)
deriving DecidableEq, Repr

/-- What is said about a breakdown. -/
def Breakdown.message : Breakdown → String
  | .settings fault => fault.message
  | .run fault => fault.message

/-- How an interaction ends before its end. -/
inductive Ending where
  | exited (status : Nat)
  | misused (part : Part) (misuse : Misuse)
  | failed (message : String)
  /-- A question was not answered; the trailing text is what is shown last. -/
  | aborted (trailing : String)
  | broken (breakdown : Breakdown)
deriving DecidableEq, Repr

/-- How much is written to the log. -/
inductive LogLevel where
  | all | debug | info | warning | error | critical
  /-- The layout of a line of the log in place of a level. -/
  | layout
deriving DecidableEq, Repr

/-- What the log is told about its level: a number, or a text as it is. -/
inductive LogThreshold where
  | number (n : Nat)
  | text (s : String)
deriving DecidableEq, Repr

namespace LogLevel

/-- What a level stands for. Messages of a lower number are not written. -/
def threshold : LogLevel → LogThreshold
  | .all => .number 0
  | .debug => .number 10
  | .info => .number 20
  | .warning => .number 30
  | .error => .number 40
  | .critical => .number 50
  | .layout => .text "%(levelname)s:%(name)s:%(message)s"

/-- The words for the levels. The layout of a line is known by a word as well, and is not told apart from
a level. -/
def words : List (String × LogLevel) := [
  ("NOTSET", .all), ("DEBUG", .debug), ("INFO", .info), ("WARNING", .warning), ("WARN", .warning),
  ("ERROR", .error), ("CRITICAL", .critical), ("FATAL", .critical), ("BASIC_FORMAT", .layout)]

/-- The level that a word in any letter case stands for. Other words stand for warnings. -/
def ofWord (word : String) : LogLevel :=
  (words.lookup (upper word)).getD .warning

end LogLevel

/-- What a command has at hand. -/
structure Console where
  /-- The lines that are still to be typed. -/
  typed : List String := []
  shown : String := ""
  /-- The level of the log, once it is chosen. -/
  logLevel : Option LogLevel := none
  journal : Journal := {}
  tree : Disk.FileTree := {}

/-- A dealing with user, network and file tree. -/
def Interaction (α : Type) : Type :=
  Network → Console → Except Ending α × Console

namespace Interaction

instance : Monad Interaction where
  pure a := fun _ console => (.ok a, console)
  bind interaction next := fun network console =>
    match interaction network console with
    | (.ok a, console) => next a network console
    | (.error ending, console) => (.error ending, console)

theorem pure_apply {α : Type} (a : α) (network : Network) (console : Console) :
    (pure a : Interaction α) network console = (.ok a, console) := rfl

theorem bind_apply {α β : Type} (interaction : Interaction α) (next : α → Interaction β)
    (network : Network) (console : Console) :
    (interaction >>= next) network console =
      match interaction network console with
      | (.ok a, console) => next a network console
      | (.error ending, console) => (.error ending, console) := rfl

/-- Ends an interaction before its end. -/
def leave {α : Type} (ending : Ending) : Interaction α := fun _ console =>
  (.error ending, console)

/-- Goes on with a result, or ends with a misuse of a part. -/
def expect {α : Type} (part : Part) : Except Misuse α → Interaction α
  | .ok a => pure a
  | .error misuse => leave (.misused part misuse)

end Interaction

/-! ## Showing -/

/-- Shows a text as it is. -/
def Console.add (console : Console) (text : String) : Console :=
  { console with shown := console.shown ++ text }

/-- Shows a text without the styles in it. -/
def Console.print (console : Console) (text : String) : Console :=
  console.add (withoutStyles text)

namespace Interaction

/-- Shows a line. -/
def say (line : String) : Interaction Unit := fun _ console =>
  (.ok (), console.print (line ++ "\n"))

/-- Chooses the level of the log. -/
def setLogLevel (level : LogLevel) : Interaction Unit := fun _ console =>
  (.ok (), { console with logLevel := some level })

/-- What the file tree looks like. -/
def fileTree : Interaction Disk.FileTree := fun _ console =>
  (.ok console.tree, console)

/-! ## The network -/

/-- Carries out a dealing with the network. A crash is a breakdown. -/
def ask {α : Type} (exchange : Exchange α) : Interaction α := fun network console =>
  let (result, sent) := exchange network console.journal.sent
  (result.mapError fun crash => .broken (.run (.crashed crash)),
    { console with journal := { console.journal with sent } })

/-- Carries out an interaction in a session, which is closed at its end, however that comes about. -/
def inSession {α : Type} (session : Session) (interaction : Interaction α) : Interaction α :=
  fun network console =>
    let (result, console) :=
      interaction network { console with journal := console.journal.openSession session }
    (result, { console with journal := console.journal.closeSession })

end Interaction

/-! ## Questions -/

/-- What becomes of an answer. -/
inductive Verdict (α : Type) where
  | accepted (a : α)
  /-- The question is asked again, perhaps after a complaint. -/
  | again (complaint : Option String)

/-- A question to the user. -/
structure Question (α : Type) where
  text : String
  /-- Whether the answer is not shown. -/
  isHidden : Bool := false
  judge : String → Verdict α

/-- The line of an answer as it is shown. -/
def Question.echo {α : Type} (question : Question α) (answer : String) : String :=
  if question.isHidden then " \n" else " " ++ answer ++ "\n"

/-- The console after a question, before its answer. -/
def Question.pose {α : Type} (question : Question α) (console : Console) : Console :=
  console.print (question.text ++ ":")

/-- The end of an interaction in which a question is not answered. -/
def Question.unanswered {α : Type} (question : Question α) (console : Console) :
    Except Ending α × Console :=
  if question.isHidden then (.error (.aborted ""), (question.pose console).add " \n\n")
  else (.error (.aborted " "), question.pose console)

/-- Asks a question until one of the lines that are typed is accepted. -/
def Question.askEach {α : Type} (question : Question α) (console : Console) :
    List String → Except Ending α × Console
  | [] => question.unanswered { console with typed := [] }
  | line :: rest =>
    let console := (question.pose { console with typed := rest }).add (question.echo line)
    match question.judge line with
    | .accepted a => (.ok a, console)
    | .again none => question.askEach console rest
    | .again (some complaint) => question.askEach (console.print (complaint ++ "\n")) rest

/-- Asks a question. -/
def Question.ask {α : Type} (question : Question α) : Interaction α := fun _ console =>
  question.askEach console console.typed

/-- A question that takes any answer but the empty one. -/
def openQuestion (text : String) (isHidden : Bool) : Question String :=
  { text, isHidden
    judge := fun answer => if answer.isEmpty then .again none else .accepted answer }

/-- A question whose empty answer stands for a default, which is shown unless it is empty. -/
def questionWithDefault (text default : String) : Question String :=
  { text := if default.isEmpty then text else text ++ " [" ++ default ++ "]"
    judge := fun answer => .accepted (Run.orElse answer default) }

/-- The question for the kind of authentication. -/
def authenticationQuestion : Question Authentication :=
  { text := "Authentication (" ++ commaList (Authentication.all.map Authentication.label) ++
      ") [" ++ Authentication.anonymous.label ++ "]"
    judge := fun answer =>
      let word := Run.orElse answer Authentication.anonymous.label
      match Authentication.ofLabel? word with
      | some kind => .accepted kind
      | none => .again (some ("Error: " ++ Misuse.notAuthentication word)) }

/-- A question that is answered by yes or no. -/
def yesOrNo (text : String) (default : Bool) : Question Bool :=
  { text := text ++ (if default then " [Y/n]" else " [y/N]")
    judge := fun answer =>
      let word := onChars trim (lower answer)
      if word = "y" ∨ word = "yes" then .accepted true
      else if word = "n" ∨ word = "no" then .accepted false
      else if word.isEmpty then .accepted default
      else .again (some "Error: invalid input") }

end RestConnector.CommandLine
