import RestConnector.CommandLine.Program
import RestConnector.Json.Reader
import RestConnector.Survey.Recording

/-!
# The executable

`main` gives the program what it needs of the machine and carries out what the program decided. The
network is a recording, kept in the file that a variable names; without one every request is refused.
What is typed is read only if the arguments ask for an interactive run. Files are written at the end.
-/

namespace RestConnector

/-- The variables that the settings are taken from. -/
def settingsVariables : List String := [
  "CONNECTOR_GEN_TIMEOUT", "CONNECTOR_GEN_VERIFY_SSL", "CONNECTOR_GEN_MAX_SAMPLES",
  "CONNECTOR_GEN_USER_AGENT", "CONNECTOR_GEN_OUTPUT_DIR", "LOG_LEVEL"]

/-- The variable that names the file of the recording. -/
def recordingVariable : String := "CONNECTOR_GEN_RECORDING"

/-- The variables that are set, with their values. -/
def readVariables (names : List String) : IO (List (String × String)) :=
  names.filterMapM fun name => do
    return (← IO.getEnv name).map fun value => (name, value)

/-- The network to be used. -/
def readNetwork : IO Survey.Network := do
  match ← IO.getEnv recordingVariable with
  | none => return fun _ _ => .refused ("No recording is named by " ++ recordingVariable)
  | some file =>
    match Json.read? (← IO.FS.readFile file) with
    | some recording => return (Survey.Recording.script recording).network
    | none => throw (IO.userError ("The recording is no JSON document: " ++ file))

/-- How a path in the file tree is written for the machine. -/
def writtenPath : Disk.Path → String
  | "/" :: names => "/" ++ String.intercalate "/" names
  | names => String.intercalate "/" names

/-- Writes the files of a tree, with the directories they are in. -/
def writeTree (tree : Disk.FileTree) : IO Unit :=
  for (path, node) in tree.entries do
    match node with
    | .directory => IO.FS.createDirAll (writtenPath path)
    | .file content => IO.FS.writeFile (writtenPath path) content

/-- Runs the program on the arguments, the environment and the typed text of the process. -/
def runProcess (arguments : List String) : IO UInt32 := do
  let environment ← readVariables settingsVariables
  let network ← readNetwork
  let typed ←
    if CommandLine.OptionName.interactive.spelling ∈ arguments then (← IO.getStdin).readToEnd
    else pure ""
  let conclusion := CommandLine.runProgram environment arguments typed network {}
  writeTree conclusion.console.tree
  IO.print conclusion.console.shown
  match conclusion.breakdown with
  | some breakdown => IO.eprintln breakdown.message
  | none => pure ()
  return conclusion.status.toUInt32

end RestConnector

/-- Runs the program and ends with its status. -/
def main (arguments : List String) : IO UInt32 :=
  RestConnector.runProcess arguments
